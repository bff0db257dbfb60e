import Mathlib.Data.List.Permutation
import OvnOctavia.MonitorUndone

/-!
The repair of the health checks of a monitor. Every health check is compared with each
address in turn, and whatever differs is written, so that the last difference counts: the
health checks of one address come out right, those of several addresses meet.
-/

namespace OvnOctavia

section Updates
variable {nb : Nb} {hc cur : HealthCheck} {options : Dict Str Str} {x t : Str}

/-- A transaction of updates of health checks that are there: each gets its own, in order. -/
theorem transact_hcUpdates {cs : List (Nat × HcOp)} (hcs : ∀ c ∈ cs, ∃ hc, nb.hc? c.1 = some hc) :
    Prog.transact Nb.apply (cs.map fun c => .hcUpdate c.1 c.2) nb = .ok { nb with
      healthChecks := nb.healthChecks.map fun hc =>
        (cs.filter (·.1 = hc.uuid)).foldl (fun hc c => HcOp.apply hc c.2) hc } := by
  induction cs generalizing nb with
  | nil =>
      simp only [List.map_nil, List.filter_nil, List.foldl_nil, List.map_id']
      rfl
  | cons c cs ih =>
      obtain ⟨hc, hhc⟩ := hcs c (List.mem_cons_self ..)
      let nb₁ : Nb := { nb with healthChecks := nb.healthChecks.map fun hc =>
        if hc.uuid = c.1 then HcOp.apply hc c.2 else hc }
      have hfirst : Nb.apply (.hcUpdate c.1 c.2) nb = .ok nb₁ := by simp only [Nb.apply, hhc, nb₁]
      have huuid : ∀ hc : HealthCheck, (HcOp.apply hc c.2).uuid = hc.uuid := by
        intro hc
        cases c.2 <;> rfl
      have hrest : ∀ d ∈ cs, ∃ hc, nb₁.hc? d.1 = some hc := by
        intro d hd
        obtain ⟨hc, hhc⟩ := hcs d (List.mem_cons_of_mem _ hd)
        obtain ⟨hm, hu⟩ := Nb.hc?_eq_some hhc
        have hsome : (nb₁.hc? d.1).isSome := by
          refine List.find?_isSome.mpr ⟨_, List.mem_map_of_mem hm, ?_⟩
          split
          · rw [huuid]
            exact decide_eq_true hu
          · exact decide_eq_true hu
        exact Option.isSome_iff_exists.mp hsome
      rw [List.map_cons, Prog.transact_cons, hfirst]
      refine (ih hrest).trans ?_
      simp only [nb₁, List.map_map, Function.comp_def]
      refine congrArg (fun l => Except.ok { nb with healthChecks := l }) (List.map_congr_left ?_)
      intro y _
      by_cases hy : y.uuid = c.1
      · simp [hy, huuid]
      · simp [hy, Ne.symm hy]

/-- An address a health check is compared with: its text, the keys it is compared with and
those that are written. -/
structure CheckTarget where
  text : Str
  compared : Dict Str Str
  written : Dict Str Str

/-- The updates of one health check for one address. -/
def checkUpdates (options : Dict Str Str) (hc : HealthCheck) (t : CheckTarget) : List HcOp :=
  (if hc.vip ≠ t.text then [.setVip t.text] else []) ++
    (if !hc.options.same options then [.setOptions options] else []) ++
    (if !hc.externalIds.same t.compared then [.setExternalIds t.written] else [])

/-- A health check after the updates for all addresses; what differs is told from `hc`. -/
def syncedFrom (options : Dict Str Str) (hc : HealthCheck) (targets : List CheckTarget)
    (cur : HealthCheck) : HealthCheck :=
  targets.foldl (fun cur t => (checkUpdates options hc t).foldl HcOp.apply cur) cur

theorem foldl_checkUpdates (options : Dict Str Str) (hc cur : HealthCheck) (t : CheckTarget) :
    (checkUpdates options hc t).foldl HcOp.apply cur = { cur with
      vip := if hc.vip ≠ t.text then t.text else cur.vip
      options := if hc.options.same options then cur.options else cur.options.update options
      externalIds := if hc.externalIds.same t.compared then cur.externalIds
        else cur.externalIds.update t.written } := by
  rw [checkUpdates]
  split <;> cases hc.options.same options <;> cases hc.externalIds.same t.compared <;> rfl

theorem uuid_syncedFrom (options : Dict Str Str) (hc : HealthCheck) (targets : List CheckTarget)
    (cur : HealthCheck) : (syncedFrom options hc targets cur).uuid = cur.uuid := by
  induction targets generalizing cur with
  | nil => rfl
  | cons t targets ih =>
      rw [syncedFrom, List.foldl_cons, ← syncedFrom, ih, foldl_checkUpdates]

theorem options_syncedFrom (options : Dict Str Str) (hc : HealthCheck)
    (targets : List CheckTarget) (cur : HealthCheck) :
    (syncedFrom options hc targets cur).options =
      if hc.options.same options = true ∨ targets = [] then cur.options
      else cur.options.update options := by
  have hagain : ∀ d : Dict Str Str, (d.update options).update options = d.update options := by
    intro d
    refine Dict.update_of_get? fun k v hk => ?_
    rw [Dict.get?_update, hk]
    rfl
  induction targets generalizing cur with
  | nil => simp [syncedFrom]
  | cons t targets ih =>
      rw [syncedFrom, List.foldl_cons, ← syncedFrom, ih, foldl_checkUpdates]
      by_cases hs : hc.options.same options = true
      · simp [hs]
      · simp [hs, hagain]

/-- The monitor of a health check stays. -/
theorem hmKey_syncedFrom {options : Dict Str Str} {targets : List CheckTarget} {hmId : Str}
    (ht : ∀ t ∈ targets, t.written.get? lbExtIdsHmKey = some hmId)
    (hcur : cur.externalIds.get? lbExtIdsHmKey = some hmId) :
    (syncedFrom options hc targets cur).externalIds.get? lbExtIdsHmKey = some hmId := by
  induction targets generalizing cur with
  | nil => exact hcur
  | cons t targets ih =>
      have hfirst := foldl_checkUpdates options hc cur t
      rw [syncedFrom, List.foldl_cons, ← syncedFrom, hfirst]
      refine ih (fun t' ht' => ht t' (List.mem_cons_of_mem _ ht')) ?_
      dsimp only
      split
      · exact hcur
      · rw [Dict.get?_update, ht t (List.mem_cons_self ..)]
        rfl

theorem syncedFrom_concat (options : Dict Str Str) (hc : HealthCheck)
    (targets : List CheckTarget) (t : CheckTarget) (cur : HealthCheck) :
    syncedFrom options hc (targets ++ [t]) cur =
      (checkUpdates options hc t).foldl HcOp.apply (syncedFrom options hc targets cur) := by
  rw [syncedFrom, List.foldl_append]
  rfl

/-- The updates of one health check among those of all. -/
theorem filter_checkUpdates {lbhcs : List HealthCheck} (hn : (lbhcs.map HealthCheck.uuid).Nodup)
    (hm : hc ∈ lbhcs) (options : Dict Str Str) (t : CheckTarget) :
    (lbhcs.flatMap fun y => (checkUpdates options y t).map (Prod.mk y.uuid)).filter
        (·.1 = hc.uuid) = (checkUpdates options hc t).map (Prod.mk hc.uuid) := by
  have hown : ∀ (u : Nat) (ops : List HcOp), (ops.map (Prod.mk u)).filter (·.1 = hc.uuid) =
      if u = hc.uuid then ops.map (Prod.mk u) else [] := by
    intro u ops
    split
    · next hu => simp [hu]
    · next hu => simp [hu]
  induction lbhcs with
  | nil => cases hm
  | cons y lbhcs ih =>
      rw [List.map_cons, List.nodup_cons] at hn
      rw [List.flatMap_cons, List.filter_append, hown]
      rcases List.mem_cons.mp hm with rfl | hm
      · have hnone : (lbhcs.flatMap fun y => (checkUpdates options y t).map (Prod.mk y.uuid)).filter
            (·.1 = hc.uuid) = [] := by
          rw [List.filter_flatMap, List.flatMap_eq_nil_iff]
          intro y hy
          rw [hown, if_neg]
          intro he
          have hmem : y.uuid ∈ lbhcs.map HealthCheck.uuid := List.mem_map_of_mem hy
          exact hn.1 (he ▸ hmem)
        rw [if_pos rfl, hnone, List.append_nil]
      · have hne : y.uuid ≠ hc.uuid := fun he => hn.1 (he ▸ List.mem_map_of_mem hm)
        rw [if_neg hne, ih hn.2 hm, List.nil_append]

theorem foldl_filter_checkUpdates {lbhcs : List HealthCheck}
    (hn : (lbhcs.map HealthCheck.uuid).Nodup) (hm : hc ∈ lbhcs) (options : Dict Str Str)
    (targets : List CheckTarget) (cur : HealthCheck) :
    ((targets.flatMap fun t => lbhcs.flatMap fun y =>
        (checkUpdates options y t).map (Prod.mk y.uuid)).filter (·.1 = hc.uuid)).foldl
      (fun cur c => HcOp.apply cur c.2) cur = syncedFrom options hc targets cur := by
  induction targets generalizing cur with
  | nil => rfl
  | cons t targets ih =>
      rw [List.flatMap_cons, List.filter_append, List.foldl_append, filter_checkUpdates hn hm, ih,
        List.foldl_map]
      rfl

end Updates

section Commands
variable {env : Env} {nb : Nb} {row : LoadBalancer} {e : Dict Str Str} {info : HmInfo}
  {lbhcs : List HealthCheck} {port a b : Str}

/-- The `vip` column of a health check for an address, with its port. -/
def checkText (env : Env) (port a : Str) : Str :=
  addressPort (shown ((env.ipVersion a).getD .v4) a) port

theorem checkText_inj (ha : '[' ∉ a) (hb : '[' ∉ b)
    (h : checkText env port a = checkText env port b) : a = b :=
  (shown_inj ha hb (List.append_cancel_right h)).2

theorem lbhcVip_eq (ha : (env.ipVersion a).isSome) (hport : port ≠ []) :
    lbhcVip env a (some port) = .ok (checkText env port a) := by
  obtain ⟨c, p, rfl⟩ := List.exists_cons_of_ne_nil hport
  obtain ⟨v, hv⟩ := Option.isSome_iff_exists.mp ha
  simp only [lbhcVip, bracketVip, Env.version, checkText, hv]
  cases v <;> rfl

/-- The keys of a health check for an address. -/
def checkKeys (info : HmInfo) (a : Str) : Dict Str Str :=
  lbhcExternalIds info.id (getPoolKey info.poolId true) a

/-- The addresses that health checks are compared with, those of the floating IPs with the
keys of the last VIP. -/
def checkTargets (env : Env) (e : Dict Str Str) (info : HmInfo) (port : Str) :
    List CheckTarget :=
  (lbVips e).map (fun a => ⟨checkText env port a, checkKeys info a, checkKeys info a⟩) ++
    (lbhcFips e).map fun a => ⟨checkText env port a, checkKeys info ((lbVips e).getLastD []),
      checkKeys info ((lbhcFips e).getLastD [])⟩

/-- The updates of a listed monitor with health checks. -/
theorem syncLbhcCommands_eq {hms : List Str} (hr : Readable env row.externalIds)
    (hfips : ∀ a ∈ lbhcFips row.externalIds, (env.ipVersion a).isSome)
    (hhms : loadHms row.externalIds = .ok hms) (hlisted : info.id ∈ hms) (hne : lbhcs ≠ [])
    (hport : getPoolListenerPort row.externalIds (getPoolKey info.poolId true) = some port)
    (hp : port ≠ []) :
    syncLbhcCommands env lbhcs row (getPoolKey info.poolId true) info =
      .ok (((checkTargets env row.externalIds info port).flatMap fun t => lbhcs.flatMap fun hc =>
        (checkUpdates (hmOptions info) hc t).map (Prod.mk hc.uuid)).map fun c =>
          .hcUpdate c.1 c.2) := by
  have haddress : ∀ text compared written listed,
      syncLbhcAddress lbhcs row info hms text compared written listed =
        (lbhcs.flatMap fun hc => (checkUpdates (hmOptions info) hc ⟨text, compared, written⟩).map
          (Prod.mk hc.uuid)).map fun c => .hcUpdate c.1 c.2 := by
    intro text compared written listed
    obtain ⟨hc, rest, rfl⟩ := List.exists_cons_of_ne_nil hne
    have hcontains : hms.contains info.id = true := List.contains_iff_mem.mpr hlisted
    simp only [syncLbhcAddress, hcontains, Bool.not_true, Bool.and_false, Bool.false_eq_true,
      if_false, List.append_nil, List.map_flatMap, List.map_map]
    refine List.flatMap_congr fun hc _ => ?_
    simp only [checkUpdates, List.map_append]
    congr 1
    · congr 1 <;> split <;> rfl
    · split <;> rfl
  have hvips : (lbVips row.externalIds).mapM (fun vip => do
      let text ← lbhcVip env vip (some port)
      return syncLbhcAddress lbhcs row info hms text (checkKeys info vip)
        (checkKeys info vip) true :
        Str → Except Exc (List Command)) = .ok ((lbVips row.externalIds).map fun a =>
          syncLbhcAddress lbhcs row info hms (checkText env port a) (checkKeys info a)
            (checkKeys info a) true) := by
    refine Except.mapM_eq_map fun a ha => ?_
    rw [lbhcVip_eq (hr.vips a ha) hp]
    rfl
  have hfips' : (lbhcFips row.externalIds).mapM (fun fip => do
      let text ← lbhcVip env fip (some port)
      return syncLbhcAddress lbhcs row info hms text
        (checkKeys info ((lbVips row.externalIds).getLastD []))
        (checkKeys info ((lbhcFips row.externalIds).getLastD [])) false :
        Str → Except Exc (List Command)) = .ok ((lbhcFips row.externalIds).map fun a =>
          syncLbhcAddress lbhcs row info hms (checkText env port a)
            (checkKeys info ((lbVips row.externalIds).getLastD []))
            (checkKeys info ((lbhcFips row.externalIds).getLastD [])) false) := by
    refine Except.mapM_eq_map fun a ha => ?_
    rw [lbhcVip_eq (hfips a ha) hp]
    rfl
  simp only [syncLbhcCommands, hhms, hport, Except.ok_bind]
  simp only [checkKeys] at hvips hfips'
  rw [hvips, Except.ok_bind, hfips', Except.ok_bind]
  simp only [haddress, checkTargets, checkKeys, List.flatMap_append, List.map_append,
    List.flatMap_map, List.map_flatMap, ← List.flatMap_def]
  rfl

/-- The store with the health checks of a monitor updated. -/
def Nb.syncChecks (nb : Nb) (options : Dict Str Str) (targets : List CheckTarget)
    (lbhcs : List HealthCheck) : Nb :=
  { nb with healthChecks := nb.healthChecks.map fun hc =>
      if hc ∈ lbhcs then syncedFrom options hc targets hc else hc }

theorem transact_checkUpdates (hn : (nb.healthChecks.map HealthCheck.uuid).Nodup)
    (hsub : lbhcs.Sublist nb.healthChecks) (options : Dict Str Str) (targets : List CheckTarget) :
    Prog.transact Nb.apply ((targets.flatMap fun t => lbhcs.flatMap fun hc =>
        (checkUpdates options hc t).map (Prod.mk hc.uuid)).map fun c => .hcUpdate c.1 c.2) nb =
      .ok (nb.syncChecks options targets lbhcs) := by
  have hown : ∀ c ∈ targets.flatMap fun t => lbhcs.flatMap fun hc =>
      (checkUpdates options hc t).map (Prod.mk hc.uuid), ∃ hc ∈ lbhcs, c.1 = hc.uuid := by
    intro c hc
    obtain ⟨t, -, hc⟩ := List.mem_flatMap.mp hc
    obtain ⟨y, hy, hc⟩ := List.mem_flatMap.mp hc
    obtain ⟨op, -, rfl⟩ := List.mem_map.mp hc
    exact ⟨y, hy, rfl⟩
  rw [transact_hcUpdates, Nb.syncChecks]
  · refine congrArg (fun l => Except.ok { nb with healthChecks := l })
      (List.map_congr_left fun hc hm => ?_)
    split
    · next hmem => exact foldl_filter_checkUpdates (hn.sublist (hsub.map _)) hmem _ _ _
    · next hmem =>
        -- no other health check has the identifier of one of the monitor
        have hnone : (targets.flatMap fun t => lbhcs.flatMap fun y =>
            (checkUpdates options y t).map (Prod.mk y.uuid)).filter (·.1 = hc.uuid) = [] := by
          rw [List.filter_eq_nil_iff]
          intro c hc' he
          obtain ⟨y, hy, hcy⟩ := hown c hc'
          have hu : y.uuid = hc.uuid := hcy ▸ of_decide_eq_true he
          have hyc : y = hc := List.inj_on_of_nodup_map hn (hsub.subset hy) hm hu
          exact hmem (hyc ▸ hy)
        rw [hnone]
        rfl
  · intro c hc
    obtain ⟨y, hy, hcy⟩ := hown c hc
    have hsome : (nb.hc? c.1).isSome :=
      List.find?_isSome.mpr ⟨y, hsub.subset hy, decide_eq_true hcy.symm⟩
    exact Option.isSome_iff_exists.mp hsome

/-- The health checks of the monitor after their update. -/
theorem lookup_syncChecks {hmId : Str} {targets : List CheckTarget}
    (ht : ∀ t ∈ targets, t.written.get? lbExtIdsHmKey = some hmId) (options : Dict Str Str) :
    lookupLbhcsByHmId (nb.syncChecks options targets (lookupLbhcsByHmId nb hmId)) hmId =
      (lookupLbhcsByHmId nb hmId).map fun hc => syncedFrom options hc targets hc := by
  have hmem : ∀ hc ∈ nb.healthChecks, hc ∈ lookupLbhcsByHmId nb hmId ↔
      hc.externalIds.get? lbExtIdsHmKey = some hmId := by
    intro hc hm
    rw [lookupLbhcsByHmId, List.mem_filter, decide_eq_true_eq]
    exact and_iff_right hm
  have hkey : ∀ hc ∈ nb.healthChecks, (if hc ∈ lookupLbhcsByHmId nb hmId then
      syncedFrom options hc targets hc else hc).externalIds.get? lbExtIdsHmKey = some hmId ↔
        hc.externalIds.get? lbExtIdsHmKey = some hmId := by
    intro hc hm
    split
    · next h =>
        have hown := (hmem hc hm).mp h
        exact iff_of_true (hmKey_syncedFrom ht hown) hown
    · rfl
  calc
    _ = (nb.healthChecks.filter fun hc => hc.externalIds.get? lbExtIdsHmKey = some hmId).map
          (fun hc => if hc ∈ lookupLbhcsByHmId nb hmId then syncedFrom options hc targets hc
            else hc) := by
        rw [lookupLbhcsByHmId, Nb.syncChecks, List.filter_map]
        refine congrArg _ (List.filter_congr fun hc hm => ?_)
        exact decide_eq_decide.mpr (hkey hc hm)
    _ = _ := List.map_congr_left fun hc hm => if_pos hm

end Commands

section Run
variable {env : Env} {nb : Nb} {row : LoadBalancer} {info : HmInfo} {port : Str}

/-- The addresses that are to have a health check each. -/
def checkAddresses (e : Dict Str Str) : List Str := lbVips e ++ lbhcFips e

/-- A monitor with health checks that its row lists; its pool is enabled and has a listener. -/
structure Syncable (env : Env) (nb : Nb) (row : LoadBalancer) (info : HmInfo) (port : Str) :
    Prop where
  tended : Tended env nb row
  found : findOvnLbOfHm nb info.id = some row
  listed : ∃ hms, loadHms row.externalIds = .ok hms ∧ info.id ∈ hms
  checks : lookupLbhcsByHmId nb info.id ≠ []
  poolId : IsUuid info.poolId
  pool : row.externalIds.contains (getPoolKey info.poolId true) = true
  listener : getPoolListenerPort row.externalIds (getPoolKey info.poolId true) = some port
  port : port ≠ []
  distinct : (checkAddresses row.externalIds).Nodup
  bracket : ∀ a ∈ checkAddresses row.externalIds, '[' ∉ a

theorem hmKey_checkTargets {e : Dict Str Str} :
    ∀ t ∈ checkTargets env e info port, t.written.get? lbExtIdsHmKey = some info.id := by
  have hkey : ∀ a, (checkKeys info a).get? lbExtIdsHmKey = some info.id :=
    fun a => (get?_lbhcExternalIds _ _ a).1
  intro t ht
  rcases List.mem_append.mp ht with ht | ht
  · obtain ⟨a, -, rfl⟩ := List.mem_map.mp ht
    exact hkey a
  · obtain ⟨a, -, rfl⟩ := List.mem_map.mp ht
    exact hkey _

theorem run_syncLbhc (lb : LoadBalancer) (h : Tended env nb row) (hu : row.uuid = lb.uuid)
    {hms : List Str} (hhms : loadHms row.externalIds = .ok hms) (hlisted : info.id ∈ hms)
    (hne : lookupLbhcsByHmId nb info.id ≠ [])
    (hport : getPoolListenerPort row.externalIds (getPoolKey info.poolId true) = some port)
    (hp : port ≠ []) :
    (syncLbhc env lb (getPoolKey info.poolId true) info).run Nb.apply nb =
      (.ok (), nb.syncChecks (hmOptions info) (checkTargets env row.externalIds info port)
        (lookupLbhcsByHmId nb info.id)) := by
  have hcs := syncLbhcCommands_eq h.readable h.fips hhms hlisted hne hport hp
  have ht := transact_checkUpdates h.table
    (show (lookupLbhcsByHmId nb info.id).Sublist nb.healthChecks from List.filter_sublist)
    (hmOptions info) (checkTargets env row.externalIds info port)
  simp only [syncLbhc, Prog.run_bind, run_readLb, live_of_lb? (hu ▸ h.watched.found),
    if_neg h.vip, Prog.run_get, Prog.run_ofExcept, hcs, Prog.run_transaction, ht]

/-- The health checks of the monitor after the repair; the row refers to those it did. -/
theorem run_hmSync (h : Syncable env nb row info port) :
    ∃ row', ((hmSync env info (getPoolKey info.poolId true)).run Nb.apply nb).2.lb? row.uuid =
        some row' ∧ row'.healthCheck = row.healthCheck ∧
      checkAddresses row'.externalIds = checkAddresses row.externalIds ∧
      lookupLbhcsByHmId ((hmSync env info (getPoolKey info.poolId true)).run Nb.apply nb).2
        info.id =
        (lookupLbhcsByHmId nb info.id).map fun hc =>
          syncedFrom (hmOptions info) hc (checkTargets env row.externalIds info port) hc := by
  obtain ⟨hms, hhms, hlisted⟩ := h.listed
  obtain ⟨value, hvalue⟩ := Option.isSome_iff_exists.mp h.pool
  obtain ⟨ds, rfl, hds⟩ := h.tended.readable.pool _ _ _ h.poolId hvalue
  obtain ⟨entries, e₁, hrun₁, he₁, -⟩ := run_updateMemberStatuses h.tended.watched.wellFormed rfl
    h.tended.watched.found h.tended.readable hvalue hds ACTIVE ONLINE
  obtain ⟨h₁, -⟩ := h.tended.put he₁ row.ipPortMappings
  obtain ⟨hhms₁, hvips₁, hfips₁⟩ := he₁.addresses
  have hsync := run_syncLbhc row h₁ rfl (hhms₁.trans hhms) hlisted h.checks
    ((he₁.port _).trans h.listener) h.port
  have hkey := Readable.withStatuses_ne (poolKey_notMem_base info.poolId true)
  have hv₁ : e₁.get? (getPoolKey info.poolId true) = some (poolValue ds) :=
    (he₁.get? _ hkey).trans hvalue
  have hfind : (findOvnLbFromHmId info.id).run Nb.apply nb =
      (.ok (lookupLbhcsByHmId nb info.id, some row), nb) := by
    rw [← h.found]
    rfl
  obtain ⟨nb₂, hnb₂⟩ : ∃ nb₂, nb₂ = (nb.putLb { row with externalIds := e₁ }).syncChecks
      (hmOptions info) (checkTargets env e₁ info port) (lookupLbhcsByHmId nb info.id) := ⟨_, rfl⟩
  have hw₂ : nb₂.WellFormed := by
    rw [hnb₂]
    exact ⟨h₁.watched.wellFormed.nodup, h₁.watched.wellFormed.lt_next⟩
  have hrow₂ : nb₂.lb? row.uuid = some { row with externalIds := e₁ } := by
    rw [hnb₂]
    exact h₁.watched.found
  have hread : (readMembers row (getPoolKey info.poolId true)).run Nb.apply nb₂ =
      (.ok ds, nb₂) := by
    simp only [readMembers, Prog.run_bind, run_readLb, live_of_lb? hrow₂, hv₁,
      Prog.run_ofExcept, extractMemberInfo_poolValue hds]
  -- whatever the lookups of the members answer, the health checks are left alone
  obtain ⟨r, e₃, maps, ids, hrun₃, he₃, -⟩ := run_monitorMembers (S := fun _ => False)
    hw₂ (show ({ row with externalIds := e₁ } : LoadBalancer).uuid = row.uuid from rfl) hrow₂
    he₁.readable hkey hv₁ hds (show ∀ m ∈ ds, m ∈ ds from fun _ hm => hm)
    (.inr fun _ _ _ _ hk => hk.elim)
  have hrun : ((hmSync env info (getPoolKey info.poolId true)).run Nb.apply nb).2 =
      { nb₂.putLb { row with externalIds := e₃, ipPortMappings := maps } with
        deletedPorts := ids } := by
    obtain ⟨hc, rest, hcons⟩ := List.exists_cons_of_ne_nil h.checks
    have hsync' : (syncLbhc env row (getPoolKey info.poolId true) info).run Nb.apply
        (nb.putLb { row with externalIds := e₁ }) = (.ok (), nb₂) := by
      rw [hnb₂]
      exact hsync
    simp only [hmSync, Prog.run_bind, hfind]
    rw [hcons]
    simp only [Prog.run_bind, hrun₁, Prog.run_attempt, hsync', hread, hrun₃]
    cases r <;> rfl
  obtain ⟨-, hvips₃, hfips₃⟩ := (he₁.trans he₃).addresses
  rw [hrun]
  refine ⟨{ row with externalIds := e₃, ipPortMappings := maps },
    Nb.lb?_putLb { row with externalIds := e₃, ipPortMappings := maps } hrow₂, rfl, ?_, ?_⟩
  · rw [checkAddresses, checkAddresses]
    exact congrArg₂ _ hvips₃ hfips₃
  · have htargets : checkTargets env e₁ info port = checkTargets env row.externalIds info port := by
      rw [checkTargets, checkTargets, hvips₁, hfips₁]
    rw [← htargets, ← lookup_syncChecks hmKey_checkTargets, hnb₂]
    rfl

end Run

section Repair
variable {env : Env} {nb nb' : Nb} {row row' : LoadBalancer} {info : HmInfo} {port a b v : Str}
  {hc y z : HealthCheck}

/-- The health check is the one the address is to have. -/
structure Serves (env : Env) (info : HmInfo) (port : Str) (row : LoadBalancer) (hc : HealthCheck)
    (a : Str) : Prop where
  vip : hc.vip = checkText env port a
  address : hc.externalIds.get? lbExtIdsHmVip = some a
  options : hc.options.same (hmOptions info) = true
  referenced : hc.uuid ∈ row.healthCheck

/-- The monitor has one health check for each address of the row, and no other. -/
def ChecksMatch (env : Env) (info : HmInfo) (port : Str) (nb : Nb) (row : LoadBalancer) : Prop :=
  ∃ as, as.Perm (checkAddresses row.externalIds) ∧
    List.Forall₂ (Serves env info port row) (lookupLbhcsByHmId nb info.id) as

/-- The repair leaves one health check for each address, and nothing changes where that was
so before. -/
def Repairs (env : Env) (nb : Nb) (row : LoadBalancer) (info : HmInfo) (port : Str) : Prop :=
  let nb' := ((hmSync env info (getPoolKey info.poolId true)).run Nb.apply nb).2
  ∃ row', nb'.lb? row.uuid = some row' ∧ ChecksMatch env info port nb' row' ∧
    (ChecksMatch env info port nb row →
      lookupLbhcsByHmId nb' info.id = lookupLbhcsByHmId nb info.id ∧
        row'.healthCheck = row.healthCheck)

/-- What no update can bring about: the reference of the row and options of that kind only. -/
def Mendable (info : HmInfo) (row : LoadBalancer) (hc : HealthCheck) : Prop :=
  hc.uuid ∈ row.healthCheck ∧ ∀ k ∈ hc.options.keys, k ∈ (hmOptions info).keys

/-- There is one address, with one health check; or there are two, with two health checks
that are not right yet, the first of which has the text of the second address and the keys
of the last VIP, the second neither. -/
inductive Repairable (env : Env) (nb : Nb) (row : LoadBalancer) (info : HmInfo) (port : Str) :
    Prop
  | one (a : Str) (hc : HealthCheck) (haddress : checkAddresses row.externalIds = [a])
      (hlookup : lookupLbhcsByHmId nb info.id = [hc]) (hmend : Mendable info row hc)
      (hpool : Serves env info port row hc a →
        hc.externalIds.get? lbExtIdsHmPoolKey = some info.poolId)
  | two (a b : Str) (y z : HealthCheck) (haddress : checkAddresses row.externalIds = [a, b])
      (hlookup : (lookupLbhcsByHmId nb info.id).Perm [y, z])
      (hmend : Mendable info row y ∧ Mendable info row z)
      (hfirst : y.vip = checkText env port b ∧
        y.externalIds.same (checkKeys info ((lbVips row.externalIds).getLastD [])) = true)
      (hsecond : z.vip ≠ checkText env port b ∧
        z.externalIds.same (checkKeys info ((lbVips row.externalIds).getLastD [])) = false)
      (hwrong : ¬ChecksMatch env info port nb row)

theorem get?_checkKeys (info : HmInfo) (a k : Str) : (checkKeys info a).get? k =
    if k = lbExtIdsHmVip then some a else if k = lbExtIdsHmPoolKey then some info.poolId
    else if k = lbExtIdsHmKey then some info.id else none := by
  have hdrop : (getPoolKey info.poolId true).drop lbExtIdsPoolPrefix.length = info.poolId := by
    simp [getPoolKey]
  rw [checkKeys, lbhcExternalIds, hdrop, Dict.get?_set, Dict.get?_set, Dict.single,
    Dict.get?_set]
  rfl

/-- The options after an update are those asked for unless there were others. -/
theorem options_synced (hc : HealthCheck) (options : Dict Str Str) {targets : List CheckTarget}
    (hne : targets ≠ []) : (syncedFrom options hc targets hc).options.same options = true ↔
      ∀ k ∈ hc.options.keys, k ∈ options.keys := by
  rw [options_syncedFrom]
  simp only [hne, or_false]
  split
  · next hs =>
      refine iff_of_true hs fun k hk => ?_
      rw [← Dict.contains_iff, Dict.contains, ← Dict.same_iff.mp hs k]
      exact (Dict.contains_iff _ _).mpr hk
  · exact Dict.update_same_iff

/-- A health check after the updates for one address. -/
theorem serves_synced_one (hrow : row'.healthCheck = row.healthCheck) :
    Serves env info port row' (syncedFrom (hmOptions info) hc
      [⟨checkText env port a, checkKeys info a, checkKeys info a⟩] hc) a ↔
        Mendable info row hc := by
  have hoptions := options_synced hc (hmOptions info)
    (List.cons_ne_nil (⟨checkText env port a, checkKeys info a, checkKeys info a⟩ : CheckTarget) [])
  have huuid := uuid_syncedFrom (hmOptions info) hc
    [⟨checkText env port a, checkKeys info a, checkKeys info a⟩] hc
  constructor
  · intro h
    exact ⟨hrow ▸ huuid ▸ h.referenced, hoptions.mp h.options⟩
  · rintro ⟨href, hkeys⟩
    refine ⟨?_, ?_, hoptions.mpr hkeys, hrow ▸ huuid.symm ▸ href⟩
    · rw [syncedFrom, List.foldl_cons, foldl_checkUpdates, List.foldl_nil]
      dsimp only
      split
      · rfl
      · next h => exact not_not.mp h
    · rw [syncedFrom, List.foldl_cons, foldl_checkUpdates, List.foldl_nil]
      dsimp only
      split
      · next h => rw [Dict.same_iff.mp h, get?_checkKeys, if_pos rfl]
      · rw [Dict.get?_update, get?_checkKeys, if_pos rfl]
        rfl

/-- The targets of two addresses; `v` is the last VIP. -/
def twoTargets (env : Env) (info : HmInfo) (port a b v : Str) : List CheckTarget :=
  [⟨checkText env port a, checkKeys info a, checkKeys info a⟩,
    ⟨checkText env port b, checkKeys info v, checkKeys info b⟩]

/-- The text of a health check ends as that of the second address, which is to differ from
its own, and its keys as those of the second address, unless they were those of the last VIP. -/
theorem synced_two (info : HmInfo) (htext : checkText env port a ≠ checkText env port b)
    (options : Dict Str Str) (hc : HealthCheck) :
    (syncedFrom options hc (twoTargets env info port a b v) hc).vip =
        (if hc.vip = checkText env port b then checkText env port a
          else checkText env port b) ∧
      (syncedFrom options hc (twoTargets env info port a b v) hc).externalIds.get? lbExtIdsHmVip =
        some (if hc.externalIds.same (checkKeys info v) then a else b) := by
  rw [twoTargets, syncedFrom, List.foldl_cons, List.foldl_cons, foldl_checkUpdates,
    foldl_checkUpdates, List.foldl_nil]
  constructor
  · dsimp only
    by_cases h : hc.vip = checkText env port b
    · rw [if_pos h, if_neg (fun hne => hne h), if_pos (h ▸ htext.symm)]
    · rw [if_neg h, if_pos h]
  · dsimp only
    by_cases hs : hc.externalIds.same (checkKeys info v) = true
    · rw [if_pos hs, if_pos hs]
      by_cases hs' : hc.externalIds.same (checkKeys info a) = true
      · rw [if_pos hs', Dict.same_iff.mp hs', get?_checkKeys, if_pos rfl]
      · rw [if_neg hs', Dict.get?_update, get?_checkKeys, if_pos rfl]
        rfl
    · rw [if_neg hs, if_neg hs, Dict.get?_update, get?_checkKeys, if_pos rfl]
      rfl

/-- The health check of the first address has the text of the second and the keys of the last
VIP, that of the second has neither. -/
theorem serves_synced_two (htext : checkText env port a ≠ checkText env port b)
    (hrow : row'.healthCheck = row.healthCheck) {x : Str} (hx : x = a ∨ x = b) :
    Serves env info port row' (syncedFrom (hmOptions info) hc (twoTargets env info port a b v) hc)
        x ↔ Mendable info row hc ∧ (x = a ↔ hc.vip = checkText env port b) ∧
          (x = a ↔ hc.externalIds.same (checkKeys info v) = true) := by
  obtain ⟨hvip, hkey⟩ := synced_two info (v := v) htext (hmOptions info) hc
  have hne : twoTargets env info port a b v ≠ [] := List.cons_ne_nil _ _
  have hoptions := options_synced hc (hmOptions info) hne
  have huuid := uuid_syncedFrom (hmOptions info) hc (twoTargets env info port a b v) hc
  have hba : b ≠ a := fun h => htext (h ▸ rfl)
  have hiff : (x = a ↔ hc.vip = checkText env port b) ↔
      (if hc.vip = checkText env port b then checkText env port a else checkText env port b) =
        checkText env port x := by
    rcases hx with rfl | rfl
    · simp [htext.symm]
    · simp [hba, htext]
  have hiff' : (x = a ↔ hc.externalIds.same (checkKeys info v) = true) ↔
      some (if hc.externalIds.same (checkKeys info v) then a else b) = some x := by
    rcases hx with rfl | rfl
    · simp [hba]
    · simp [hba, hba.symm]
  rw [hiff, hiff', ← hvip, ← hkey]
  constructor
  · exact fun h => ⟨⟨hrow ▸ huuid ▸ h.referenced, hoptions.mp h.options⟩, h.vip, h.address⟩
  · exact fun ⟨⟨href, hkeys⟩, ht, hk⟩ => ⟨ht, hk, hoptions.mpr hkeys, hrow ▸ huuid.symm ▸ href⟩

/-- Past the last two addresses no text is left. -/
theorem vip_syncedFrom_concat (targets : List CheckTarget) {s t : CheckTarget}
    (hst : s.text ≠ t.text) (options : Dict Str Str) (hc : HealthCheck) :
    (syncedFrom options hc (targets ++ [s] ++ [t]) hc).vip = s.text ∨
      (syncedFrom options hc (targets ++ [s] ++ [t]) hc).vip = t.text := by
  rw [syncedFrom_concat, syncedFrom_concat, foldl_checkUpdates, foldl_checkUpdates]
  dsimp only
  by_cases h : hc.vip = t.text
  · rw [if_neg (fun hne => hne h), if_pos (h ▸ hst.symm)]
    exact .inl rfl
  · rw [if_pos h]
    exact .inr rfl

theorem checkTargets_one {e : Dict Str Str} (hvip : lbVips e ≠ [])
    (ha : checkAddresses e = [a]) : checkTargets env e info port =
      [⟨checkText env port a, checkKeys info a, checkKeys info a⟩] := by
  rw [checkAddresses, List.append_eq_singleton_iff] at ha
  rcases ha with ⟨hnil, -⟩ | ⟨hvips, hfips⟩
  · exact absurd hnil hvip
  · rw [checkTargets, hvips, hfips]
    rfl

theorem checkTargets_two {e : Dict Str Str} (hvip : lbVips e ≠ [])
    (ha : checkAddresses e = [a, b]) : checkTargets env e info port =
      twoTargets env info port a b ((lbVips e).getLastD []) := by
  rw [checkAddresses, List.append_eq_cons_iff] at ha
  rcases ha with ⟨hnil, -⟩ | ⟨vips, hvips, hrest⟩
  · exact absurd hnil hvip
  · rw [eq_comm, List.append_eq_singleton_iff] at hrest
    rw [checkTargets, hvips]
    rcases hrest with ⟨rfl, hfips⟩ | ⟨rfl, hfips⟩
    · rw [hfips]
      rfl
    · rw [hfips]
      rfl

theorem text_checkTargets (env : Env) (e : Dict Str Str) (info : HmInfo) (port : Str) :
    (checkTargets env e info port).map CheckTarget.text =
      (checkAddresses e).map (checkText env port) := by
  simp only [checkTargets, checkAddresses, List.map_append, List.map_map]
  rfl

/-- Whether the repair does what it is to do, in terms of the updates. -/
theorem repairs_iff_synced (h : Syncable env nb row info port) :
    ∃ row' : LoadBalancer, row'.healthCheck = row.healthCheck ∧ (Repairs env nb row info port ↔
      (∃ as, as.Perm (checkAddresses row.externalIds) ∧ List.Forall₂
        (fun hc a => Serves env info port row' (syncedFrom (hmOptions info) hc
          (checkTargets env row.externalIds info port) hc) a) (lookupLbhcsByHmId nb info.id) as) ∧
      (ChecksMatch env info port nb row → ∀ hc ∈ lookupLbhcsByHmId nb info.id,
        syncedFrom (hmOptions info) hc (checkTargets env row.externalIds info port) hc = hc)) := by
  obtain ⟨row', hrow', hchecks, haddresses, hlookup⟩ := run_hmSync h
  have hsame : (lookupLbhcsByHmId nb info.id).map (fun hc => syncedFrom (hmOptions info) hc
      (checkTargets env row.externalIds info port) hc) = lookupLbhcsByHmId nb info.id ↔
        ∀ hc ∈ lookupLbhcsByHmId nb info.id,
          syncedFrom (hmOptions info) hc (checkTargets env row.externalIds info port) hc = hc := by
    have hinj := List.map_inj_left (l := lookupLbhcsByHmId nb info.id) (g := id)
      (f := fun hc => syncedFrom (hmOptions info) hc
        (checkTargets env row.externalIds info port) hc)
    rwa [List.map_id] at hinj
  refine ⟨row', hchecks, ?_⟩
  constructor
  · rintro ⟨row'', hrow'', hmatch, hkept⟩
    obtain rfl : row' = row'' := Option.some.inj (hrow'.symm.trans hrow'')
    obtain ⟨as, has, hserves⟩ := hmatch
    rw [haddresses] at has
    rw [hlookup, List.forall₂_map_left_iff] at hserves
    refine ⟨⟨as, has, hserves⟩, fun hm => hsame.mp ?_⟩
    rw [← hlookup]
    exact (hkept hm).1
  · rintro ⟨⟨as, has, hserves⟩, hkept⟩
    refine ⟨row', hrow', ⟨as, haddresses ▸ has, ?_⟩, fun hm => ⟨?_, hchecks⟩⟩
    · rw [hlookup, List.forall₂_map_left_iff]
      exact hserves
    · rw [hlookup]
      exact hsame.mpr (hkept hm)

theorem synced_one_eq (hid : hc.externalIds.get? lbExtIdsHmKey = some info.id)
    (hs : Serves env info port row hc a) :
    syncedFrom (hmOptions info) hc
        [⟨checkText env port a, checkKeys info a, checkKeys info a⟩] hc = hc ↔
      hc.externalIds.get? lbExtIdsHmPoolKey = some info.poolId := by
  have hpool : (checkKeys info a).get? lbExtIdsHmPoolKey = some info.poolId := by
    rw [get?_checkKeys, if_neg (by decide), if_pos rfl]
  rw [syncedFrom, List.foldl_cons, foldl_checkUpdates, List.foldl_nil]
  constructor
  · intro he
    have hkeys := congrArg HealthCheck.externalIds he
    dsimp only at hkeys
    split at hkeys
    · next hsame => rw [Dict.same_iff.mp hsame, hpool]
    · rw [← hkeys, Dict.get?_update, hpool]
      rfl
  · intro hp
    have hwritten : hc.externalIds.update (checkKeys info a) = hc.externalIds := by
      refine Dict.update_of_get? fun k w hk => ?_
      rw [get?_checkKeys] at hk
      split_ifs at hk with h₁ h₂ h₃
      · exact h₁ ▸ hk ▸ hs.address
      · exact h₂ ▸ hk ▸ hp
      · exact h₃ ▸ hk ▸ hid
    rw [if_neg (fun hne => hne hs.vip), if_pos hs.options, hwritten, ite_self]

theorem exists_of_forall₂_right {α β : Type} {R : α → β → Prop} {l : List α} {l' : List β}
    (h : List.Forall₂ R l l') {x : β} (hx : x ∈ l') : ∃ y ∈ l, R y x := by
  induction h with
  | nil => cases hx
  | @cons y x' l l' hr _ ih =>
      rcases List.mem_cons.mp hx with rfl | hx
      · exact ⟨y, List.mem_cons_self .., hr⟩
      · obtain ⟨y', hy', hr'⟩ := ih hx
        exact ⟨y', List.mem_cons_of_mem _ hy', hr'⟩

/-- The health checks of three addresses or more come to share the last two texts. -/
theorem not_served_of_three (h : Syncable env nb row info port)
    (hlen : 3 ≤ (checkAddresses row.externalIds).length) {as : List Str}
    (has : as.Perm (checkAddresses row.externalIds)) :
    ¬List.Forall₂ (fun hc a => Serves env info port row' (syncedFrom (hmOptions info) hc
      (checkTargets env row.externalIds info port) hc) a) (lookupLbhcsByHmId nb info.id) as := by
  intro hserves
  have htexts := text_checkTargets env row.externalIds info port
  have hnodup : ((checkTargets env row.externalIds info port).map CheckTarget.text).Nodup := by
    rw [htexts]
    refine h.distinct.map_on fun x hx w hw => ?_
    exact checkText_inj (h.bracket x hx) (h.bracket w hw)
  have hlen' : 3 ≤ (checkTargets env row.externalIds info port).length := by
    rw [← List.length_map CheckTarget.text, htexts, List.length_map]
    exact hlen
  generalize checkTargets env row.externalIds info port = targets at *
  obtain rfl | ⟨targets, t, rfl⟩ := List.eq_nil_or_concat targets
  · simp at hlen'
  obtain rfl | ⟨targets, s, rfl⟩ := List.eq_nil_or_concat targets
  · simp at hlen'
  obtain _ | ⟨r, targets⟩ := targets
  · simp at hlen'
  -- the address of the first target is served by none
  have hr : r.text ∈ (checkAddresses row.externalIds).map (checkText env port) := by
    rw [← htexts]
    simp
  obtain ⟨x, hx, hxr⟩ := List.mem_map.mp hr
  obtain ⟨hc, -, hs⟩ := exists_of_forall₂_right hserves (has.mem_iff.mpr hx)
  rw [List.concat_eq_append, List.concat_eq_append] at hnodup hs
  have hlast : s.text ≠ t.text ∧ r.text ≠ s.text ∧ r.text ≠ t.text := by
    simp only [List.map_append, List.map_cons, List.map_nil, List.cons_append, List.nodup_cons,
      List.mem_append, List.mem_singleton, not_or, List.nodup_append] at hnodup
    exact ⟨hnodup.2.2.2 _ (.inr rfl) _ rfl, hnodup.1.1.2, hnodup.1.2⟩
  obtain ⟨hst, hrs, hrt⟩ := hlast
  have hvip := hs.vip.trans hxr
  rcases vip_syncedFrom_concat (r :: targets) hst (hmOptions info) hc with he | he
  · exact hrs (hvip.symm.trans he)
  · exact hrt (hvip.symm.trans he)

/-- The repair does what it is to do exactly for one address, or for two whose health
checks happen to be wrong the right way. -/
theorem repairs_iff (h : Syncable env nb row info port) :
    Repairs env nb row info port ↔ Repairable env nb row info port := by
  obtain ⟨row', hrow', hiff⟩ := repairs_iff_synced h
  have hown : ∀ hc ∈ lookupLbhcsByHmId nb info.id,
      hc.externalIds.get? lbExtIdsHmKey = some info.id :=
    fun hc hm => of_decide_eq_true (List.mem_filter.mp hm).2
  have hinj : ∀ x ∈ checkAddresses row.externalIds, ∀ w ∈ checkAddresses row.externalIds,
      checkText env port x = checkText env port w → x = w :=
    fun x hx w hw => checkText_inj (h.bracket x hx) (h.bracket w hw)
  rw [hiff]
  constructor
  · rintro ⟨⟨as, has, hserves⟩, hkept⟩
    rcases haddr : checkAddresses row.externalIds with _ | ⟨a, _ | ⟨b, _ | ⟨c, rest⟩⟩⟩
    · exact absurd (List.append_eq_nil_iff.mp haddr).1 h.tended.vip
    · rw [haddr, List.perm_singleton] at has
      subst has
      rw [checkTargets_one h.tended.vip haddr] at hserves hkept
      obtain ⟨hc, rest, hs, hrest, hlookup⟩ := List.forall₂_cons_right_iff.mp hserves
      obtain rfl := List.forall₂_nil_right_iff.mp hrest
      have hm : hc ∈ lookupLbhcsByHmId nb info.id := hlookup ▸ List.mem_singleton_self hc
      refine .one a hc haddr hlookup ((serves_synced_one hrow').mp hs) fun hright => ?_
      refine (synced_one_eq (hown hc hm) hright).mp (hkept ⟨[a], ?_, ?_⟩ hc hm)
      · rw [haddr]
      · rw [hlookup]
        exact .cons hright .nil
    · have hab := h.distinct
      rw [haddr] at hab
      have hne : a ≠ b := by simpa using hab
      have htext : checkText env port a ≠ checkText env port b := fun he =>
        hne (hinj a (by simp [haddr]) b (by simp [haddr]) he)
      rw [checkTargets_two h.tended.vip haddr] at hserves hkept
      -- in whatever order, one health check serves the first address and one the second
      obtain ⟨y, z, hlookup, hy, hz⟩ : ∃ y z, (lookupLbhcsByHmId nb info.id).Perm [y, z] ∧
          Serves env info port row' (syncedFrom (hmOptions info) y
            (twoTargets env info port a b ((lbVips row.externalIds).getLastD [])) y) a ∧
          Serves env info port row' (syncedFrom (hmOptions info) z
            (twoTargets env info port a b ((lbVips row.externalIds).getLastD [])) z) b := by
        rw [haddr, List.perm_pair] at has
        rcases has with rfl | rfl
        · obtain ⟨y, rest, hy, hrest, hl⟩ := List.forall₂_cons_right_iff.mp hserves
          obtain ⟨z, rest', hz, hrest', rfl⟩ := List.forall₂_cons_right_iff.mp hrest
          obtain rfl := List.forall₂_nil_right_iff.mp hrest'
          exact ⟨y, z, hl ▸ .refl _, hy, hz⟩
        · obtain ⟨z, rest, hz, hrest, hl⟩ := List.forall₂_cons_right_iff.mp hserves
          obtain ⟨y, rest', hy, hrest', rfl⟩ := List.forall₂_cons_right_iff.mp hrest
          obtain rfl := List.forall₂_nil_right_iff.mp hrest'
          exact ⟨y, z, hl ▸ .swap .., hy, hz⟩
      obtain ⟨hmend, hvip, hkeys⟩ := (serves_synced_two htext hrow' (.inl rfl)).mp hy
      obtain ⟨hmend', hvip', hkeys'⟩ := (serves_synced_two htext hrow' (.inr rfl)).mp hz
      refine .two a b y z haddr hlookup ⟨hmend, hmend'⟩ ⟨hvip.mp rfl, hkeys.mp rfl⟩
        ⟨fun hv => hne (hvip'.mpr hv).symm, ?_⟩ fun hright => ?_
      · exact Bool.eq_false_iff.mpr fun hk => hne (hkeys'.mpr hk).symm
      · -- the first health check takes another text, whether it was right or not
        have hsame := hkept hright y (hlookup.mem_iff.mpr (by simp))
        have hv := (synced_two info (v := (lbVips row.externalIds).getLastD []) htext
          (hmOptions info) y).1
        rw [hsame, if_pos (hvip.mp rfl)] at hv
        exact htext (hv.symm.trans (hvip.mp rfl))
    · exact absurd hserves (not_served_of_three h (by simp [haddr]) has)
  · intro hr
    cases hr with
    | one a hc haddr hlookup hmend hpool =>
        rw [checkTargets_one h.tended.vip haddr, hlookup]
        refine ⟨⟨[a], haddr ▸ .refl _, .cons ((serves_synced_one hrow').mpr hmend) .nil⟩,
          fun hm y hy => ?_⟩
        obtain rfl := List.mem_singleton.mp hy
        obtain ⟨as, has, hserves⟩ := hm
        rw [haddr, List.perm_singleton] at has
        rw [has, hlookup, List.forall₂_cons] at hserves
        exact (synced_one_eq (hown y (hlookup ▸ hy)) hserves.1).mpr (hpool hserves.1)
    | two a b y z haddr hlookup hmend hfirst hsecond hwrong =>
        have hab := h.distinct
        rw [haddr] at hab
        have hne : a ≠ b := by simpa using hab
        have htext : checkText env port a ≠ checkText env port b := fun he =>
          hne (hinj a (by simp [haddr]) b (by simp [haddr]) he)
        rw [checkTargets_two h.tended.vip haddr]
        have hy := (serves_synced_two (v := (lbVips row.externalIds).getLastD []) htext hrow'
          (.inl rfl)).mpr ⟨hmend.1, iff_of_true rfl hfirst.1, iff_of_true rfl hfirst.2⟩
        have hz := (serves_synced_two (v := (lbVips row.externalIds).getLastD []) htext hrow'
          (.inr rfl)).mpr ⟨hmend.2, iff_of_false hne.symm hsecond.1,
            iff_of_false hne.symm (ne_true_of_eq_false hsecond.2)⟩
        refine ⟨?_, fun hm => absurd hm hwrong⟩
        rcases List.perm_pair.mp hlookup with hl | hl
        · exact ⟨[a, b], haddr ▸ .refl _, hl ▸ .cons hy (.cons hz .nil)⟩
        · exact ⟨[b, a], haddr ▸ .swap .., hl ▸ .cons hz (.cons hy .nil)⟩

end Repair

section Example

/-- A listed monitor with the two health checks it was created with, for the VIP and for its
floating IP. -/
def exampleCheckedRow : LoadBalancer := { exampleListedRow with
  externalIds := exampleListedRow.externalIds.set lbExtIdsVipFipKey "172.24.4.9".toList
  healthCheck := [3, 4] }

def exampleCheckedMonitor : HmInfo := { exampleNewMonitor with id := exampleId 'd' }

def exampleCheckedNb : Nb := { exampleNb with
  loadBalancers := [exampleCheckedRow]
  healthChecks := ["10.0.0.2", "172.24.4.9"].mapIdx fun i a =>
    ⟨3 + i, (a ++ ":80").toList, hmOptions exampleCheckedMonitor,
      checkKeys exampleCheckedMonitor a.toList⟩
  nextUuid := 5 }

theorem syncable_exampleChecked :
    Syncable exampleEnv exampleCheckedNb exampleCheckedRow exampleCheckedMonitor "80".toList where
  tended :=
    { watched := ⟨⟨by decide, by decide⟩, by decide +kernel, by decide, fun u hu => by
        have hall : ∀ u ∈ [3, 4], (exampleCheckedNb.hc? u).isSome := by decide +kernel
        exact Option.isSome_iff_exists.mp (hall u hu), by decide +kernel⟩
      table := by decide +kernel
      readable := by
        have hfip : Refloated "172.24.4.9".toList exampleListedRow.externalIds
            exampleCheckedRow.externalIds :=
          (Refloated.refl _ _).set false fun a ha => .inr (List.mem_singleton.mp ha)
        refine hfip.readable ?_ (by decide +kernel)
        exact readable_exampleServingKeys.of_sameKeys (.set _ _ (by decide))
      hms := ⟨[exampleId 'd'], by decide +kernel⟩
      vip := by decide +kernel
      fips := by decide +kernel }
  found := by decide +kernel
  listed := ⟨[exampleId 'd'], by decide +kernel, List.mem_singleton_self _⟩
  checks := by decide +kernel
  poolId := isUuid_exampleId (by decide)
  pool := by decide +kernel
  listener := by decide +kernel
  port := by decide
  distinct := by decide +kernel
  bracket := by
    have hall : checkAddresses exampleCheckedRow.externalIds =
        ["10.0.0.2".toList, "172.24.4.9".toList] := by decide +kernel
    rw [hall]
    simp

/-- One address, whose health check has no options. -/
theorem syncable_exampleListed :
    Syncable exampleEnv exampleListedNb exampleListedRow exampleCheckedMonitor "80".toList where
  tended := newMonitor_example.tended
  found := by decide +kernel
  listed := ⟨[exampleId 'd'], by decide +kernel, List.mem_singleton_self _⟩
  checks := by decide +kernel
  poolId := isUuid_exampleId (by decide)
  pool := by decide +kernel
  listener := by decide +kernel
  port := by decide
  distinct := by decide +kernel
  bracket := by
    have hall : checkAddresses exampleListedRow.externalIds = ["10.0.0.2".toList] := by
      decide +kernel
    rw [hall]
    simp

theorem repairs_example :
    ¬ChecksMatch exampleEnv exampleCheckedMonitor "80".toList exampleListedNb exampleListedRow ∧
      Repairs exampleEnv exampleListedNb exampleListedRow exampleCheckedMonitor "80".toList := by
  obtain ⟨hc, hlookup⟩ : ∃ hc, lookupLbhcsByHmId exampleListedNb exampleCheckedMonitor.id = [hc] :=
    ⟨_, rfl⟩
  have hbare : ∀ hc ∈ lookupLbhcsByHmId exampleListedNb exampleCheckedMonitor.id,
      hc.uuid = 3 ∧ hc.options = ∅ := by decide +kernel
  obtain ⟨hu, ho⟩ := hbare hc (hlookup ▸ List.mem_singleton_self hc)
  have hstale : ∀ a,
      ¬Serves exampleEnv exampleCheckedMonitor "80".toList exampleListedRow hc a := by
    intro a hserves
    have hsame := hserves.options
    rw [ho] at hsame
    revert hsame
    decide +kernel
  refine ⟨?_, (repairs_iff syncable_exampleListed).mpr (.one "10.0.0.2".toList hc
    (by decide +kernel) hlookup ⟨?_, ?_⟩ fun h => absurd h (hstale _))⟩
  · rintro ⟨as, -, hmatch⟩
    rw [hlookup] at hmatch
    cases hmatch with
    | cons h _ => exact hstale _ h
  · rw [hu]
    exact List.mem_singleton_self 3
  · rw [ho]
    exact fun k hk => absurd hk List.not_mem_nil

/-- The two health checks were right and change places. -/
theorem not_repairs_exampleChecked :
    Syncable exampleEnv exampleCheckedNb exampleCheckedRow exampleCheckedMonitor "80".toList ∧
      ¬Repairs exampleEnv exampleCheckedNb exampleCheckedRow exampleCheckedMonitor
        "80".toList := by
  refine ⟨syncable_exampleChecked, ?_⟩
  rintro ⟨row', -, ⟨as, -, hserves⟩, -⟩
  have hlookup : ∃ hc rest, lookupLbhcsByHmId ((hmSync exampleEnv exampleCheckedMonitor
      (getPoolKey exampleCheckedMonitor.poolId true)).run Nb.apply exampleCheckedNb).2
        exampleCheckedMonitor.id = hc :: rest ∧
      hc.externalIds.get? lbExtIdsHmVip = some "10.0.0.2".toList ∧
      hc.vip ≠ checkText exampleEnv "80".toList "10.0.0.2".toList :=
    ⟨_, _, rfl, by decide +kernel, by decide +kernel⟩
  obtain ⟨hc, rest, hcons, haddress, hvip⟩ := hlookup
  rw [hcons] at hserves
  obtain ⟨a, as', hs, -, -⟩ := List.forall₂_cons_left_iff.mp hserves
  obtain rfl := Option.some.inj (hs.address.symm.trans haddress)
  exact hvip hs.vip

end Example

end OvnOctavia
