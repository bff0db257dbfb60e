import OvnOctavia.FipSync
import OvnOctavia.MissingSync
import OvnOctavia.SyncedPools

/-!
The sync of all load balancers that Octavia lists. Each is repaired in turn, and then the
floating IP of its VIP is handed on. What the round of one load balancer brings about is kept
by those of the others.
-/

namespace OvnOctavia

section Sync
variable (env : Env) (source : SyncSource)

def unsetEmpty {α : Type} : Option (List α) → Option (List α)
  | some (a :: l) => some (a :: l)
  | _ => none

/-- The tree with its lists formatted: an empty one is unset. -/
def formatProvider (lb : Octavia.LoadBalancer) : Octavia.LoadBalancer :=
  { lb with
    listeners := unsetEmpty lb.listeners
    pools := unsetEmpty <| lb.pools.map fun pools =>
      pools.map fun pool => { pool with members := unsetEmpty pool.members } }

/-- One load balancer of the listing. -/
def syncLoadbalancer (lbId : Str) : Nbctl (List Status) := do
  match ← Prog.ofExcept (source.getLoadbalancer lbId) with
  | none => throw .attributeError
  | some lb =>
      let statuses ← ensureLoadbalancer env (formatProvider lb.tree)
      fipSync env source lb
      return statuses

/-- `do_sync`, with the statuses it sends to Octavia. -/
def doSync : Nbctl (List Status) := do
  let statuses ← Prog.mapEach (syncLoadbalancer env source) source.lbs
  Prog.ofExcept source.listing
  return statuses.flatten

end Sync

section Formatting
variable {env : Env} {lb : Octavia.LoadBalancer}

theorem getD_unsetEmpty {α : Type} (l : Option (List α)) : (unsetEmpty l).getD [] = l.getD [] := by
  rcases l with _ | _ | _ <;> rfl

theorem pools_formatProvider (lb : Octavia.LoadBalancer) :
    (formatProvider lb).pools.getD [] =
      (lb.pools.getD []).map fun pool => { pool with members := unsetEmpty pool.members } := by
  rw [formatProvider, getD_unsetEmpty]
  cases lb.pools <;> rfl

theorem listeners_formatProvider (lb : Octavia.LoadBalancer) :
    (formatProvider lb).listeners.getD [] = lb.listeners.getD [] :=
  getD_unsetEmpty _

theorem wellFormed_formatProvider (h : lb.WellFormed env) : (formatProvider lb).WellFormed env where
  vip := h.vip
  additional := h.additional
  listener := by
    rw [listeners_formatProvider]
    exact h.listener
  pool := by
    intro pool hm
    rw [pools_formatProvider, List.mem_map] at hm
    obtain ⟨p, hp, rfl⟩ := hm
    exact h.pool p hp
  distinct := by
    intro p hp q hq he
    rw [pools_formatProvider, List.mem_map] at hp hq
    obtain ⟨p, hp, rfl⟩ := hp
    obtain ⟨q, hq, rfl⟩ := hq
    rw [h.distinct p hp q hq he]
  member := by
    intro pool hm m hmem d hd
    rw [pools_formatProvider, List.mem_map] at hm
    obtain ⟨p, hp, rfl⟩ := hm
    rw [getD_unsetEmpty] at hmem
    exact h.member p hp m hmem d hd

theorem rebuilt_formatProvider {e : Dict Str Str} (h : Rebuilt env (formatProvider lb) e) :
    Rebuilt env lb e := by
  intro pool hm
  have hformatted : { pool with members := unsetEmpty pool.members } ∈
      (formatProvider lb).pools.getD [] := by
    rw [pools_formatProvider]
    exact List.mem_map_of_mem hm
  obtain ⟨ds, hds, hv⟩ := h _ hformatted
  rw [getD_unsetEmpty] at hds
  exact ⟨ds, hds, hv⟩

end Formatting

section Repairs
variable {env : Env} {I : Dict Str Str → Prop} {u : Nat} {s s' : Nb} {lb : Octavia.LoadBalancer}

/-- A creation commits a row of the load balancer, and else associations and deletions of
ports. -/
theorem uses_lbCreate {C : Command → Prop} {info : LoadBalancerInfo} {protocol : Option Protocol}
    (hcreate : ∀ externalIds fields, C (.lbCreate info.id protocol externalIds fields))
    (hperipheral : ∀ c : Command, c.IsPeripheral → C c) :
    (lbCreate env info protocol).Uses C := by
  have hdel : ∀ (port : Option Port) (ports : List (Option Port)) (status : Status),
      (do
        deleteVipPorts env port ports
        return status : Nbctl Status).Uses C := fun port ports status =>
    .bind ((peripheral_deleteVipPorts (u := 0) env port ports).peripheral.mono hperipheral)
      fun _ => .pure _
  rw [lbCreate]
  rcases vipPorts env info with ⟨⟨port, subnet, ports⟩, _ | _⟩
  · exact hdel port ports _
  · refine .bind (.ofExcept _) fun vipPortId => ?_
    split
    · refine .bind (.attempt (.bind (.transaction ?_) fun _ =>
        .bind (uses_findOvnLbOrFirst _ _) fun found => ?_)) fun r => ?_
      · simpa using hcreate _ _
      · cases port with
        | none => exact .throw _
        | some port =>
            exact (peripheral_associateNewLb env info found port subnet).peripheral.mono
              hperipheral
      · cases r with
        | ok _ => exact .pure _
        | error _ => exact hdel port ports _
    · exact hdel port ports _
    · exact .throw _

/-- The sync of a missing load balancer that ends has run its creation only. -/
theorem run_ensureMissing_ok {status : Status}
    (hrun : (ensureMissing env lb).run Nb.apply s = (.ok status, s')) :
    ∃ base, (lbCreate env (getLoadbalancerRequestInfo lb) none).run Nb.apply s =
      (.ok base, s') := by
  obtain ⟨hlisteners, hpools⟩ := ensureMissing_lists hrun
  obtain ⟨base, t, hbase, hrun⟩ := Prog.run_bind_ok hrun
  refine ⟨base, ?_⟩
  have hrest : ∀ {status' : SyncStatus} {t : Nb},
      (ensureMissingPools env lb status').run Nb.apply t = (.ok status, s') → s' = t := by
    intro status' t hrun
    cases hp : lb.pools with
    | none =>
        rw [ensureMissingPools, hp] at hrun
        exact (congrArg Prod.snd ((Prog.run_ofExcept Nb.apply _ t).symm.trans hrun)).symm
    | some pools =>
        rw [ensureMissingPools, hp, hpools pools hp] at hrun
        exact (congrArg Prod.snd ((Prog.run_ofExcept Nb.apply _ t).symm.trans hrun)).symm
  cases hl : lb.listeners with
  | none =>
      rw [hl] at hrun
      rw [hbase, hrest hrun]
  | some listeners =>
      rw [hl, hlisteners listeners hl] at hrun
      rw [hbase, hrest hrun]

/-- A row keeps what holds of its keys over a sync of a load balancer that ends. -/
theorem rowWith_ensureLoadbalancer_kept {statuses : List Status} (hI : IgnoresStatuses I)
    (ht : (∃ row ∈ s.lbsNamed lb.loadbalancerId, row.uuid = u) → KeepsTree env lb I)
    (h : s.RowWith u I)
    (hrun : (ensureLoadbalancer env lb).run Nb.apply s = (.ok statuses, s')) :
    s'.RowWith u I := by
  by_cases hnone : s.lbsNamed lb.loadbalancerId = []
  · rw [run_ensureLoadbalancer_of_missing hnone] at hrun
    obtain ⟨status, t, hmissing, hrun⟩ := Prog.run_bind_ok hrun
    cases hrun
    obtain ⟨base, hbase⟩ := run_ensureMissing_ok hmissing
    refine h.after (keepsRow_of_uses (uses_lbCreate (fun _ _ => ?_) fun c hc => ?_)) hbase
    · trivial
    · exact hc.keepsKeys hI.toIgnoresPeripheral
  · rw [ensureLoadbalancer, Prog.run_bind, Prog.run_attempt, run_findOvnLbs, if_neg hnone] at hrun
    exact h.after (.mapEach fun row hm => keepsRow_ensureRow hI row fun hu => ht ⟨row, hm, hu⟩) hrun

end Repairs

section Kept
variable {env : Env} {lb : Octavia.LoadBalancer} {add : Bool} {fip : Str}

/-- What holds of the entries of the objects has nothing to do with floating IPs. -/
theorem keepsFip_of_objects {I : Dict Str Str → Prop} (hI : ∀ e e' : Dict Str Str,
    (∀ k, k ∉ baseKeys → e'.get? k = e.get? k) → I e → I e') : KeepsFip add fip I := by
  intro info _ _ read key value _ hkv e
  rw [(associatedFip_ok hkv).1]
  exact hI _ _ fun k hk => Dict.get?_set_of_ne _ _
    (ne_of_mem_of_not_mem (fipKey_mem_base _) hk).symm

theorem keepsFip_rebuilt : KeepsFip add fip (Rebuilt env lb) :=
  keepsFip_of_objects fun _ _ h he => he.of_objects h

/-- A floating IP of Neutron stands among legible keys. -/
theorem keepsFip_legible (hversion : (env.ipVersion fip).isSome) (hcomma : ',' ∉ fip) :
    KeepsFip add fip (Legible env) := by
  rintro info _ rfl read key value hread hkv e he
  have hone : ∀ a ∈ info.vipFip.splitOn ',', (env.ipVersion a).isSome := by
    rw [List.splitOn_eq_singleton hcomma, List.forall_mem_singleton]
    exact hversion
  have hlist : ∀ v : Str, (∀ a ∈ v.splitOn ',', (env.ipVersion a).isSome) →
      Legible env (e.set lbExtIdsAdditVipFipKey v) := by
    intro v hv
    refine he.set (.base (by decide) ⟨?_, ?_, ?_, ?_, fun _ _ => hv⟩)
    all_goals exact fun h => absurd h (by decide)
  unfold associatedFip at hkv
  split at hkv
  · split at hkv
    · next c fips hget =>
        cases hkv
        refine hlist _ fun a ha => ?_
        rw [List.splitOn_append_cons_self, List.mem_append] at ha
        obtain ha | ha := ha
        · exact ((hread _ _ hget).isBaseValue (by decide)).fips rfl (by simp) a ha
        · exact hone a ha
    · cases hkv
    · cases hkv
      exact hlist _ hone
  · cases hkv
    refine he.set (.base (by decide) ⟨?_, ?_, ?_, fun _ _ => hversion, ?_⟩)
    all_goals exact fun h => absurd h (by decide)

variable {x : Option Str}

/-- The key of the floating IP of the VIP is not among those that a repair writes. -/
theorem keepsTree_vipFip : KeepsTree env lb (·.get? lbExtIdsVipFipKey = x) where
  vip := by
    intro vip vipPortId up _ e he
    have hnone : (addVipKeys (getLoadbalancerRequestInfo lb)
        (baseExternalIds vip vipPortId up)).get? lbExtIdsVipFipKey = none := by
      change (addAdditionalVips lb.additionalVips (baseExternalIds vip vipPortId up)).get? _ = none
      rw [addAdditionalVips]
      split
      · rfl
      · rw [Dict.get?_set_of_ne _ _ (by decide), Dict.get?_set_of_ne _ _ (by decide)]
        rfl
    rw [Dict.get?_update, hnone, he, Option.none_or]
  listener := by
    intro l _ info _ e he
    rw [Dict.get?_set_of_ne _ _ (ne_of_mem_of_not_mem (by decide)
      (listenerKey_notMem_base _ _)), he]
  pool := by
    intro pool _
    refine ⟨fun info _ up _ read e hread he => ?_, fun m _ d _ read e value _ _ he => ?_⟩
    · have hbase : lbExtIdsVipFipKey ∈ baseKeys := fipKey_mem_base false
      rw [Dict.get?_update, get?_prepareExternalIds_of_ne
        (ne_of_mem_of_not_mem hbase (poolKey_notMem_base _ _))
        fun id _ => ne_of_mem_of_not_mem hbase (listenerKey_notMem_base id true), hread, he,
        Option.or_self]
    · rw [Octavia.Pool.key, Dict.get?_set_of_ne _ _ (ne_of_mem_of_not_mem (by decide)
        (poolKey_notMem_base _ _)), he]

theorem ignoresStatuses_vipFip : IgnoresStatuses (·.get? lbExtIdsVipFipKey = x) where
  set := by
    intro k hk v e he
    rw [Dict.get?_set_of_ne _ _ (ne_of_mem_of_not_mem hk (by decide)).symm, he]
  erase := by
    intro k hk e he
    rw [Dict.get?_erase_of_ne _ (ne_of_mem_of_not_mem hk (by decide)).symm, he]
  statuses := by
    intro d e he
    rw [Readable.get?_withStatuses (by decide), he]

/-- A floating IP of an additional VIP stands under a key of its own. -/
theorem keepsFip_vipFip (h : add = false → x = some fip) :
    KeepsFip add fip (·.get? lbExtIdsVipFipKey = x) := by
  rintro info rfl rfl read key value _ hkv e he
  obtain ⟨rfl, rfl⟩ := associatedFip_ok hkv
  cases hadd : info.additionalVipFip with
  | false =>
      rw [h hadd]
      exact Dict.get?_set_self _ _ _
  | true =>
      rw [← he]
      exact Dict.get?_set_of_ne _ _ (by decide)

end Kept

section Rounds
variable {env : Env} {source : SyncSource} {I : Dict Str Str → Prop} {nb nb' s s' : Nb}
  {row : LoadBalancer} {lbId : Str} {statuses : List Status}

/-- The library hands out the load balancers it is asked for. -/
def SyncSource.Answers (source : SyncSource) : Prop :=
  ∀ lbId lb, source.getLoadbalancer lbId = .ok (some lb) → lb.tree.loadbalancerId = lbId

/-- A round that ends has repaired the load balancer and handed on its floating IP. -/
theorem run_syncLoadbalancer_ok
    (hrun : (syncLoadbalancer env source lbId).run Nb.apply s = (.ok statuses, s')) :
    ∃ lb t, source.getLoadbalancer lbId = .ok (some lb) ∧
      (ensureLoadbalancer env (formatProvider lb.tree)).run Nb.apply s = (.ok statuses, t) ∧
      (fipSync env source lb).run Nb.apply t = (.ok (), s') := by
  obtain ⟨provided, t, hget, hrun⟩ := Prog.run_bind_ok hrun
  obtain ⟨hget', rfl⟩ := Prod.mk.inj ((Prog.run_ofExcept Nb.apply _ s).symm.trans hget)
  cases provided with
  | none => cases hrun
  | some lb =>
      obtain ⟨_, t, hensure, hrun⟩ := Prog.run_bind_ok hrun
      obtain ⟨_, t', hfip, hrun⟩ := Prog.run_bind_ok hrun
      cases hrun
      exact ⟨lb, t, hget', hensure, hfip⟩

/-- The rows of a load balancer that were there are still those of its name. -/
theorem Nb.Continues.name_of_mem (hf : nb.Continues s) (hw : nb.WellFormed)
    (hrow : nb.lb? row.uuid = some row) {name : Str}
    (h : ∃ r ∈ s.lbsNamed name, r.uuid = row.uuid) : row.name = name := by
  obtain ⟨r, hr, hu⟩ := h
  rw [Nb.mem_lbsNamed] at hr
  have hfound := hf.wellFormed.lb?_of_mem hr.1
  rw [hu] at hfound
  rw [← hf.name_eq hw hrow hfound, hr.2]

theorem rowWith_fipSync {lb : Octavia.ProvidedLoadBalancer} (hw : nb.WellFormed)
    (hf : nb.Continues s) (hrow : nb.lb? row.uuid = some row)
    (hfip : ∀ lsp fip add, agreedFip source nb lb = some (lsp, fip) →
      toldLb lsp = some (row.name, add) → KeepsFip add fip I)
    (h : s.RowWith row.uuid I)
    (hrun : (fipSync env source lb).run Nb.apply s = (.ok (), s')) : s'.RowWith row.uuid I := by
  obtain ⟨-, rfl⟩ | ⟨lsp, fip, queued, hagreed, hupdate⟩ := run_fipSync_ok hrun
  · exact h
  · rw [hf.agreedFip_eq] at hagreed
    have hkeeps : ∀ name add, toldLb lsp = some (name, add) →
        (∃ r ∈ s.lbsNamed name, r.uuid = row.uuid) → KeepsFip add fip I := by
      intro name add htold hex
      rw [← hf.name_of_mem hw hrow hex] at htold
      exact hfip lsp fip add hagreed htold
    have hkept : ((vipPortUpdateHandler env lsp fip .sync).run Nb.apply s).2.RowWith row.uuid I :=
      rowWith_vipPortUpdateHandler h hkeeps
    rw [hupdate] at hkept
    exact hkept

/-- A row keeps what holds of its keys over a round that ends. -/
theorem rowWith_syncLoadbalancer (hw : nb.WellFormed) (hanswers : source.Answers)
    (hf : nb.Continues s) (hrow : nb.lb? row.uuid = some row) (hI : IgnoresStatuses I)
    (ht : row.name = lbId → ∀ lb, source.getLoadbalancer lbId = .ok (some lb) →
      KeepsTree env (formatProvider lb.tree) I)
    (hfip : ∀ lb lsp fip add, source.getLoadbalancer lbId = .ok (some lb) →
      agreedFip source nb lb = some (lsp, fip) → toldLb lsp = some (row.name, add) →
      KeepsFip add fip I)
    (h : s.RowWith row.uuid I)
    (hrun : (syncLoadbalancer env source lbId).run Nb.apply s = (.ok statuses, s')) :
    s'.RowWith row.uuid I := by
  obtain ⟨lb, t, hget, hensure, hsync⟩ := run_syncLoadbalancer_ok hrun
  have hft := hf.after hensure
  have hid : (formatProvider lb.tree).loadbalancerId = lbId := hanswers lbId lb hget
  have hr : t.RowWith row.uuid I := by
    refine rowWith_ensureLoadbalancer_kept hI (fun hex => ?_) h hensure
    rw [hid] at hex
    exact ht (hf.name_of_mem hw hrow hex) lb hget
  exact rowWith_fipSync hw hft hrow (fun lsp fip add => hfip lb lsp fip add hget) hr hsync

/-- The row in the store of a round. -/
theorem Nb.Continues.mem_lbsNamed (hf : nb.Continues s) (hw : nb.WellFormed)
    (hrow : nb.lb? row.uuid = some row) {row' : LoadBalancer}
    (hrow' : s.lb? row.uuid = some row') : row' ∈ s.lbsNamed row.name :=
  Nb.mem_lbsNamed.mpr ⟨(Nb.lb?_eq_some hrow').1, hf.name_eq hw hrow hrow'⟩

/-- What the sync of one row brings about holds of the rows of a load balancer after its round,
when a floating IP that is handed on keeps it. -/
theorem rowWith_syncLoadbalancer_reaches {J : Octavia.LoadBalancer → Dict Str Str → Prop}
    (hw : nb.WellFormed) (hanswers : source.Answers) (hf : nb.Continues s)
    (hrow : nb.lb? row.uuid = some row)
    (ht : ∀ lb, source.getLoadbalancer row.name = .ok (some lb) → lb.tree.WellFormed env)
    (hJ : ∀ tree, IgnoresStatuses (J tree)) (hfip : ∀ tree add fip, KeepsFip add fip (J tree))
    (hround : ∀ lb ovnLb t status t', source.getLoadbalancer row.name = .ok (some lb) →
      t.RowWith ovnLb.uuid (Legible env) →
      (ensureRow env (formatProvider lb.tree) ovnLb).run Nb.apply t = (.ok status, t') →
      t'.RowWith ovnLb.uuid (J lb.tree))
    (h : s.RowWith row.uuid (Legible env))
    (hrun : (syncLoadbalancer env source row.name).run Nb.apply s = (.ok statuses, s')) :
    ∃ lb, source.getLoadbalancer row.name = .ok (some lb) ∧ s'.RowWith row.uuid (J lb.tree) := by
  obtain ⟨lb, t, hget, hensure, hsync⟩ := run_syncLoadbalancer_ok hrun
  have htree := wellFormed_formatProvider (ht lb hget)
  obtain ⟨row', hrow', hl⟩ := h
  have hu : row'.uuid = row.uuid := (Nb.lb?_eq_some hrow').2
  have hm : row' ∈ s.lbsNamed (formatProvider lb.tree).loadbalancerId := by
    have hid : (formatProvider lb.tree).loadbalancerId = row.name := hanswers _ lb hget
    rw [hid]
    exact hf.mem_lbsNamed hw hrow hrow'
  have hreached := rowWith_ensureLoadbalancer hf.wellFormed ignoresStatuses_legible
    (keepsTree_legible htree) (hJ lb.tree) hm (fun t status t' => hround lb row' t status t' hget)
    ⟨row', hu ▸ hrow', hl⟩ hensure
  rw [hu] at hreached
  exact ⟨lb, hget, rowWith_fipSync hw (hf.after hensure) hrow
    (fun lsp fip add _ _ => hfip lb.tree add fip) hreached hsync⟩

/-- The floating IP that a sync gives the rows of a load balancer. -/
def handedFip (source : SyncSource) (nb : Nb) (lb : Octavia.ProvidedLoadBalancer) : Option Str :=
  match agreedFip source nb lb with
  | some (lsp, fip) =>
      if toldLb lsp = some (lb.tree.loadbalancerId, false) then some fip else none
  | none => none

/-- The round of a load balancer leaves its rows with the floating IP handed on, and with the
one they had if there is none. -/
theorem rowWith_syncLoadbalancer_fip {x : Option Str} (hw : nb.WellFormed)
    (hanswers : source.Answers) (hf : nb.Continues s) (hrow : nb.lb? row.uuid = some row)
    (h : s.RowWith row.uuid (·.get? lbExtIdsVipFipKey = x))
    (hrun : (syncLoadbalancer env source row.name).run Nb.apply s = (.ok statuses, s')) :
    ∃ lb, source.getLoadbalancer row.name = .ok (some lb) ∧
      s'.RowWith row.uuid (·.get? lbExtIdsVipFipKey = (handedFip source nb lb).or x) := by
  obtain ⟨lb, t, hget, hensure, hsync⟩ := run_syncLoadbalancer_ok hrun
  have hid : lb.tree.loadbalancerId = row.name := hanswers _ lb hget
  have hft := hf.after hensure
  have hr := rowWith_ensureLoadbalancer_kept ignoresStatuses_vipFip (fun _ => keepsTree_vipFip) h
    hensure
  refine ⟨lb, hget, ?_⟩
  cases hhanded : handedFip source nb lb with
  | none =>
      refine rowWith_fipSync hw hft hrow (fun lsp fip add hagreed htold => ?_) hr hsync
      refine keepsFip_vipFip fun hadd => ?_
      simp [handedFip, hagreed, hid, htold, hadd] at hhanded
  | some fip =>
      obtain ⟨hagreed, -⟩ | ⟨lsp, fip', queued, hagreed, hupdate⟩ := run_fipSync_ok hsync
      · rw [hft.agreedFip_eq] at hagreed
        rw [handedFip, hagreed] at hhanded
        cases hhanded
      · rw [hft.agreedFip_eq] at hagreed
        simp only [handedFip, hagreed] at hhanded
        split at hhanded
        · next htold =>
            cases hhanded
            obtain ⟨row', hrow', -⟩ := hr
            have hm := hft.mem_lbsNamed hw hrow hrow'
            rw [hid] at htold
            rw [← (Nb.lb?_eq_some hrow').2]
            exact rowWith_vipPortUpdateHandler_fip hft.wellFormed htold hm hupdate
        · cases hhanded

/-- A full sync that ends has run the round of each load balancer. -/
theorem run_doSync_ok (hrun : (doSync env source).run Nb.apply nb = (.ok statuses, nb')) :
    ∃ all, (Prog.mapEach (syncLoadbalancer env source) source.lbs).run Nb.apply nb =
      (.ok all, nb') := by
  obtain ⟨all, t, hall, hrun⟩ := Prog.run_bind_ok hrun
  obtain ⟨_, t', hlisting, hrun⟩ := Prog.run_bind_ok hrun
  obtain ⟨-, rfl⟩ := Prod.mk.inj ((Prog.run_ofExcept Nb.apply _ t).symm.trans hlisting)
  cases hrun
  exact ⟨all, hall⟩

/-- The addresses that Neutron hands out. -/
def SyncSource.Legible (env : Env) (source : SyncSource) : Prop :=
  ∀ portId fips, source.ips portId = .ok fips →
    ∀ fip ∈ fips, (env.ipVersion fip).isSome ∧ ',' ∉ fip

/-- What the sync of one row brings about holds of every row of a listed load balancer when a
full sync ends: the rounds of the others keep it. -/
theorem rowWith_doSync {J : Octavia.LoadBalancer → Dict Str Str → Prop} (hw : nb.WellFormed)
    (hanswers : source.Answers) (hips : source.Legible env) (hlisted : row.name ∈ source.lbs)
    (ht : ∀ lb, source.getLoadbalancer row.name = .ok (some lb) → lb.tree.WellFormed env)
    (hrow : nb.lb? row.uuid = some row) (hl : Legible env row.externalIds)
    (hJ : ∀ tree, IgnoresStatuses (J tree)) (hfip : ∀ tree add fip, KeepsFip add fip (J tree))
    (hround : ∀ lb ovnLb t status t', source.getLoadbalancer row.name = .ok (some lb) →
      t.RowWith ovnLb.uuid (Legible env) →
      (ensureRow env (formatProvider lb.tree) ovnLb).run Nb.apply t = (.ok status, t') →
      t'.RowWith ovnLb.uuid (J lb.tree))
    (hrun : (doSync env source).run Nb.apply nb = (.ok statuses, nb')) :
    ∃ lb, source.getLoadbalancer row.name = .ok (some lb) ∧ nb.Continues nb' ∧
      nb'.RowWith row.uuid (Legible env) ∧ nb'.RowWith row.uuid (J lb.tree) := by
  obtain ⟨all, hall⟩ := run_doSync_ok hrun
  have hkept : ∀ {other : Str} {s s' : Nb} {c : List Status}, nb.Continues s →
      s.RowWith row.uuid (Legible env) →
      (syncLoadbalancer env source other).run Nb.apply s = (.ok c, s') →
      s'.RowWith row.uuid (Legible env) := by
    intro other s s' c hf hr hend
    refine rowWith_syncLoadbalancer hw hanswers hf hrow ignoresStatuses_legible ?_
      (fun lb lsp fip add _ hagreed _ => ?_) hr hend
    · rintro rfl lb hget
      exact keepsTree_legible (wellFormed_formatProvider (ht lb hget))
    · obtain ⟨portId, fips, hok, hmem⟩ := mem_ips_of_agreedFip hagreed
      exact keepsFip_legible (hips portId fips hok fip hmem).1 (hips portId fips hok fip hmem).2
  refine Prog.run_mapEach_reaches
    (I := fun s => nb.Continues s ∧ s.RowWith row.uuid (Legible env))
    (J := fun s => ∃ lb, source.getLoadbalancer row.name = .ok (some lb) ∧ nb.Continues s ∧
      s.RowWith row.uuid (Legible env) ∧ s.RowWith row.uuid (J lb.tree))
    (fun other _ s _ s' hs hend => ⟨hs.1.after hend, hkept hs.1 hs.2 hend⟩)
    (fun other _ hne s _ s' hs hend => ?_) (.inr hlisted) (fun s _ s' hs hend => ?_)
    ⟨.refl hw, row, hrow, hl⟩ hall
  · obtain ⟨lb, hget, hf, hlegible, hr⟩ := hs
    exact ⟨lb, hget, hf.after hend, hkept hf hlegible hend,
      rowWith_syncLoadbalancer hw hanswers hf hrow (hJ lb.tree)
        (fun hname => absurd hname.symm hne)
          (fun _ _ fip add _ _ _ => hfip lb.tree add fip) hr hend⟩
  · obtain ⟨lb, hget, hr⟩ := rowWith_syncLoadbalancer_reaches hw hanswers hs.1 hrow ht hJ hfip
      hround hs.2 hend
    exact ⟨lb, hget, hs.1.after hend, hkept hs.1 hs.2 hend, hr⟩

/-- A full sync that ends leaves every row of a listed load balancer with the members of each
pool, whatever members the row had. -/
theorem doSync_rebuilds (hw : nb.WellFormed) (hanswers : source.Answers)
    (hips : ∀ portId fips, source.ips portId = .ok fips →
      ∀ fip ∈ fips, (env.ipVersion fip).isSome ∧ ',' ∉ fip)
    (hlisted : lbId ∈ source.lbs)
    (ht : ∀ lb, source.getLoadbalancer lbId = .ok (some lb) → lb.tree.WellFormed env)
    (hm : row ∈ nb.lbsNamed lbId) (hl : Legible env row.externalIds)
    (hrun : (doSync env source).run Nb.apply nb = (.ok statuses, nb')) :
    ∃ lb row', source.getLoadbalancer lbId = .ok (some lb) ∧ nb'.lb? row.uuid = some row' ∧
      row'.name = lbId ∧ Rebuilt env lb.tree row'.externalIds := by
  obtain ⟨hmem, rfl⟩ := Nb.mem_lbsNamed.mp hm
  have hrow := hw.lb?_of_mem hmem
  obtain ⟨lb, hget, hf, -, row', hrow', hbuilt⟩ :=
    rowWith_doSync (J := Rebuilt env) hw hanswers hips
    hlisted ht hrow hl (fun _ => ignoresStatuses_rebuilt) (fun _ _ _ => keepsFip_rebuilt)
    (fun lb ovnLb t status t' hget hr hend => (rowWith_ensureRow_rebuilt
      (wellFormed_formatProvider (ht lb hget)) hr hend).imp fun _ => rebuilt_formatProvider) hrun
  exact ⟨lb, row', hget, hrow', hf.name_eq hw hrow hrow', hbuilt⟩

/-- A full sync that ends leaves every row of a listed load balancer with the floating IP that
Neutron and the switch port agree on. One that Neutron no longer has is left. -/
theorem doSync_handsFip (hw : nb.WellFormed) (hanswers : source.Answers)
    (hlisted : lbId ∈ source.lbs)
    (hothers : ∀ other ∈ source.lbs, other ≠ lbId → ∀ lb lsp fip add,
      source.getLoadbalancer other = .ok (some lb) → agreedFip source nb lb = some (lsp, fip) →
      toldLb lsp ≠ some (lbId, add))
    (hm : row ∈ nb.lbsNamed lbId)
    (hrun : (doSync env source).run Nb.apply nb = (.ok statuses, nb')) :
    ∃ lb row', source.getLoadbalancer lbId = .ok (some lb) ∧ nb'.lb? row.uuid = some row' ∧
      row'.externalIds.get? lbExtIdsVipFipKey =
        (handedFip source nb lb).or (row.externalIds.get? lbExtIdsVipFipKey) := by
  obtain ⟨hmem, rfl⟩ := Nb.mem_lbsNamed.mp hm
  have hrow := hw.lb?_of_mem hmem
  obtain ⟨all, hall⟩ := run_doSync_ok hrun
  generalize hx : row.externalIds.get? lbExtIdsVipFipKey = x
  -- a load balancer that is listed twice is handed the same floating IP again
  have hend : ∃ lb, source.getLoadbalancer row.name = .ok (some lb) ∧ nb.Continues nb' ∧
      nb'.RowWith row.uuid (·.get? lbExtIdsVipFipKey = (handedFip source nb lb).or x) := by
    have hkept : ∀ {other : Str} {s s' : Nb} {c : List Status} {y : Option Str},
        other ∈ source.lbs → other ≠ row.name → nb.Continues s →
        s.RowWith row.uuid (·.get? lbExtIdsVipFipKey = y) →
        (syncLoadbalancer env source other).run Nb.apply s = (.ok c, s') →
        s'.RowWith row.uuid (·.get? lbExtIdsVipFipKey = y) := by
      intro other s s' c y hother hne hf hr hround
      refine rowWith_syncLoadbalancer hw hanswers hf hrow ignoresStatuses_vipFip
        (fun hname => absurd hname.symm hne) (fun lb lsp fip add hget hagreed htold => ?_) hr hround
      exact absurd htold (hothers other hother hne lb lsp fip add hget hagreed)
    refine Prog.run_mapEach_reaches
      (I := fun s => nb.Continues s ∧ ∃ y, s.RowWith row.uuid (·.get? lbExtIdsVipFipKey = y) ∧
        ∀ lb, source.getLoadbalancer row.name = .ok (some lb) →
          (handedFip source nb lb).or y = (handedFip source nb lb).or x)
      (J := fun s => ∃ lb, source.getLoadbalancer row.name = .ok (some lb) ∧ nb.Continues s ∧
        s.RowWith row.uuid (·.get? lbExtIdsVipFipKey = (handedFip source nb lb).or x))
      (fun other hother s _ s' hs hround => ?_) (fun other hother hne s _ s' hs hround => ?_)
      (.inr hlisted) (fun s _ s' hs hround => ?_) ⟨.refl hw, x, ⟨row, hrow, hx⟩, fun _ _ => rfl⟩
      hall
    · obtain ⟨hf, y, hr, hy⟩ := hs
      refine ⟨hf.after hround, ?_⟩
      by_cases hne : other = row.name
      · subst hne
        obtain ⟨lb, hget, hr⟩ := rowWith_syncLoadbalancer_fip hw hanswers hf hrow hr hround
        refine ⟨_, hr, fun lb' hget' => ?_⟩
        rw [hget] at hget'
        cases hget'
        rw [← Option.or_assoc, Option.or_self, hy lb hget]
      · exact ⟨y, hkept hother hne hf hr hround, hy⟩
    · obtain ⟨lb, hget, hf, hr⟩ := hs
      exact ⟨lb, hget, hf.after hround, hkept hother hne hf hr hround⟩
    · obtain ⟨hf, y, hr, hy⟩ := hs
      obtain ⟨lb, hget, hr⟩ := rowWith_syncLoadbalancer_fip hw hanswers hf hrow hr hround
      rw [hy lb hget] at hr
      exact ⟨lb, hget, hf.after hround, hr⟩
  obtain ⟨lb, hget, -, row', hrow', hfip⟩ := hend
  exact ⟨lb, row', hget, hrow', hfip⟩

end Rounds

section Example

/-- Two load balancers, one of them new, and a floating IP for each port. -/
def exampleSource : SyncSource where
  lbs := [exampleId 'a', exampleId 'b']
  listing := .ok ()
  getLoadbalancer := fun lbId =>
    if lbId = exampleId 'a' then .ok (some ⟨exampleMembersTree, some "port".toList⟩)
    else .ok (some ⟨{ loadbalancerId := lbId, vipAddress := some "10.0.0.2".toList
                      vipNetworkId := some "other".toList }, none⟩)
  ips := fun _ => .ok ["172.24.4.8".toList]

theorem answers_exampleSource : exampleSource.Answers := by
  intro lbId lb h
  simp only [exampleSource] at h
  split at h
  · next hid =>
      cases h
      exact hid.symm
  · cases h
    rfl

theorem wellFormed_exampleStaleNb : exampleStaleNb.WellFormed := by
  refine ⟨by decide +kernel, fun row hrow => ?_⟩
  rw [List.mem_singleton.mp hrow]
  decide

theorem doSync_rebuilds_example : ∃ lb row',
    exampleSource.getLoadbalancer (exampleId 'a') = .ok (some lb) ∧
      ((doSync exampleEnv exampleSource).run Nb.apply exampleStaleNb).2.lb? 2 = some row' ∧
      row'.name = exampleId 'a' ∧ Rebuilt exampleEnv lb.tree row'.externalIds := by
  have hok : ((doSync exampleEnv exampleSource).run Nb.apply exampleStaleNb).1.toOption.isSome =
      true := by decide +kernel
  cases hrun : ((doSync exampleEnv exampleSource).run Nb.apply exampleStaleNb).1 with
  | error e =>
      rw [hrun] at hok
      cases hok
  | ok statuses =>
      have hm : exampleStaleRow ∈ exampleStaleNb.lbsNamed (exampleId 'a') := by decide +kernel
      refine doSync_rebuilds wellFormed_exampleStaleNb answers_exampleSource ?_ (by decide) ?_ hm
        legible_exampleStaleRow (Prod.ext hrun rfl)
      · rintro _ _ ⟨⟩ fip hfip
        rw [List.mem_singleton.mp hfip]
        decide
      · rintro _ ⟨⟩
        exact wellFormed_exampleMembersTree

/-- The port of the VIP of the first one, with the floating IP. -/
def exampleSyncNb : Nb :=
  { exampleStaleNb with
    switches := [⟨1, "neutron-net".toList, [], [
      { name := "port".toList, type := []
        externalIds := (Dict.single ovnPortNameExtIdKey
          (VipPort.vip.portName (exampleId 'a'))).set ovnPortFipExtIdKey "172.24.4.8".toList
        options := ∅, addresses := [] }]⟩] }

def exampleSyncEnv : Env := { exampleEnv with getPort := fun id => .ok ⟨id, "net".toList, []⟩ }

theorem doSync_handsFip_example : ∃ lb row',
    exampleSource.getLoadbalancer (exampleId 'a') = .ok (some lb) ∧
      ((doSync exampleSyncEnv exampleSource).run Nb.apply exampleSyncNb).2.lb? 2 = some row' ∧
      row'.externalIds.get? lbExtIdsVipFipKey =
        (handedFip exampleSource exampleSyncNb lb).or
          (exampleStaleRow.externalIds.get? lbExtIdsVipFipKey) := by
  have hok : ((doSync exampleSyncEnv exampleSource).run Nb.apply exampleSyncNb).1.toOption.isSome =
      true := by decide +kernel
  cases hrun : ((doSync exampleSyncEnv exampleSource).run Nb.apply exampleSyncNb).1 with
  | error e =>
      rw [hrun] at hok
      cases hok
  | ok statuses =>
      have hm : exampleStaleRow ∈ exampleSyncNb.lbsNamed (exampleId 'a') := by decide +kernel
      have hothers : ∀ other ∈ exampleSource.lbs, other ≠ exampleId 'a' → ∀ lb lsp fip add,
          exampleSource.getLoadbalancer other = .ok (some lb) →
          agreedFip exampleSource exampleSyncNb lb = some (lsp, fip) →
          toldLb lsp ≠ some (exampleId 'a', add) := by
        intro other hother hne lb lsp fip add hget hagreed
        simp only [exampleSource, if_neg hne] at hget
        cases hget
        cases hagreed
      have hrun' : (doSync exampleSyncEnv exampleSource).run Nb.apply exampleSyncNb =
          (.ok statuses, ((doSync exampleSyncEnv exampleSource).run Nb.apply exampleSyncNb).2) :=
        Prod.ext hrun rfl
      have hw : exampleSyncNb.WellFormed :=
        ⟨wellFormed_exampleStaleNb.nodup, wellFormed_exampleStaleNb.lt_next⟩
      have h := doSync_handsFip hw answers_exampleSource (by decide) hothers hm hrun'
      exact h

example : handedFip exampleSource exampleSyncNb ⟨exampleMembersTree, some "port".toList⟩ =
    some "172.24.4.8".toList := by decide +kernel

end Example

end OvnOctavia
