import OvnOctavia.RefCounts
import OvnOctavia.RouterInterfaces

/-!
The routers of a load balancer. A router named in a row is linked to the row, and so
are the switches behind the router's own ports of the version of the VIP. Members come
with switches of their own, counted on the row; when the last member of a network goes,
its switch is unlinked even where a router of the row still connects it.
-/

namespace OvnOctavia

section Topology
variable {ver : Str → Option IpVersion} {env : Env} {nb nb' : Nb} {lr lr' : LogicalRouter}

/-- The port is one of the router's own on the switch, with an address of the version. -/
def LogicalRouterPort.Serves (ver : Str → Option IpVersion) (v : IpVersion)
    (port : LogicalRouterPort) (x : Str) : Prop :=
  port.gatewayChassis = false ∧
    (∃ network rest, port.networks = network :: rest ∧ ver network = some v) ∧
    ∃ c name, port.externalIds.get? ovnNetworkNameExtIdKey = some (c :: name) ∧
      x = ovnName (c :: name)

/-- The router connects the switch. -/
def LogicalRouter.Connects (ver : Str → Option IpVersion) (v : IpVersion) (lr : LogicalRouter)
    (x : Str) : Prop := ∃ port ∈ lr.ports, port.Serves ver v x

theorem LogicalRouter.Connects.of_bare {v : IpVersion} {x : Str} (h : lr'.bare = lr.bare)
    (hc : lr'.Connects ver v x) : lr.Connects ver v x := by
  have hports : lr'.bare.ports = lr.bare.ports := congrArg LogicalRouter.ports h
  simp only [LogicalRouter.bare] at hports
  unfold LogicalRouter.Connects at hc ⊢
  rwa [← hports]

/-- The names found behind a router are those of the switches it connects. -/
theorem mem_findLsForLr {v : IpVersion} {nets : List Str} (h : findLsForLr env lr v = .ok nets)
    (x : Str) : x ∈ nets ↔ lr.Connects env.ipVersion v x := by
  refine (Except.foldlM_iff (R := (x ∈ ·)) (P := (·.Serves env.ipVersion v x)) ?_ h).trans ?_
  · intro port ls ls' hstep
    unfold LogicalRouterPort.Serves
    cases hg : port.gatewayChassis with
    | true =>
        rw [hg] at hstep
        cases hstep
        simp
    | false =>
        cases hnet : port.networks with
        | nil =>
            simp only [hg, hnet, Bool.false_eq_true, if_false] at hstep
            cases hstep
        | cons network rest =>
            simp only [hg, hnet, Bool.false_eq_true, if_false] at hstep
            obtain ⟨w, hw, hstep⟩ := Except.bind_eq_ok.mp hstep
            rw [Env.version_eq_ok_iff] at hw
            by_cases hwv : w = v
            · subst hwv
              simp only [ne_eq, not_true_eq_false, if_false] at hstep
              rcases hname : port.externalIds.get? ovnNetworkNameExtIdKey with _ | _ | ⟨c, name⟩
              · rw [hname] at hstep
                cases hstep
                simp
              · rw [hname] at hstep
                cases hstep
                simp
              · rw [hname] at hstep
                cases hstep
                simp [hw]
            · simp only [ne_eq, hwv, not_false_eq_true, if_true] at hstep
              cases hstep
              simp [hw, hwv]
  · simp [LogicalRouter.Connects]

end Topology

section Reaching
variable {ver : Str → Option IpVersion} {ex : Nat → Str → Prop} {nb nb' : Nb}
  {row row' : LoadBalancer} {u : Nat}

/-- The VIP of the row is of the version. -/
def LoadBalancer.HasVersion (ver : Str → Option IpVersion) (row : LoadBalancer) (v : IpVersion) :
    Prop := ∃ vip, row.externalIds.get? lbExtIdsVipKey = some vip ∧ ver vip = some v

/-- The switches of the routers, and that the routers are told apart. -/
structure Nb.Routed (ver : Str → Option IpVersion) (nb : Nb) : Prop where
  uuids : (nb.routers.map LogicalRouter.uuid).Nodup
  names : (nb.routers.map LogicalRouter.name).Nodup
  spelled : ∀ lr ∈ nb.routers, ',' ∉ lr.name ∧ strip lr.name = lr.name
  addressed : ∀ lr ∈ nb.routers, ∀ port ∈ lr.ports, port.gatewayChassis = false →
    ∃ network rest, port.networks = network :: rest ∧ (ver network).isSome
  switches : ∀ lr ∈ nb.routers, ∀ v x, lr.Connects ver v x → (nb.switch? (.name x)).isSome

/-- The row is linked to the routers it names and, `ex` apart, to what they connect. -/
structure Reached (ver : Str → Option IpVersion) (ex : Nat → Str → Prop) (row : LoadBalancer)
    (nb : Nb) : Prop where
  vip : ∃ v, row.HasVersion ver v
  unmonitored : row.healthCheck = []
  refs : ∃ total, Refs row total nb
  routers : ∀ r lr, nb.router? r = some lr → lr.name ∈ lrRefs row.externalIds →
    row.uuid ∈ lr.loadBalancer ∧
      ∀ v x, row.HasVersion ver v → lr.Connects ver v x → ¬ex r x → nb.LinkedTo row.uuid x

/-- Every row is linked to its routers and their switches. -/
structure Linked (ver : Str → Option IpVersion) (ex : Nat → Str → Prop) (nb : Nb) : Prop where
  wellFormed : nb.WellFormed
  distinct : nb.DistinctSwitches
  routed : nb.Routed ver
  rows : ∀ row ∈ nb.loadBalancers, Reached ver ex row nb

/-- No link of the row `u` is lost, and nothing else changes in the topology. -/
structure Nb.Grows (u : Nat) (nb nb' : Nb) : Prop where
  topology : nb.SameTopology nb'
  switches : ∀ x, nb.LinkedTo u x → nb'.LinkedTo u x
  routers : ∀ r lr lr', nb.router? r = some lr → nb'.router? r = some lr' →
    u ∈ lr.loadBalancer → u ∈ lr'.loadBalancer

theorem Nb.Grows.refl (u : Nat) (nb : Nb) : nb.Grows u nb :=
  ⟨.refl nb, fun _ hx => hx, fun r lr lr' h h' hm => by
    rw [h] at h'
    exact Option.some.inj h' ▸ hm⟩

theorem Nb.Grows.trans {c : Nb} (h : nb.Grows u nb') (h' : nb'.Grows u c) : nb.Grows u c := by
  refine ⟨h.topology.trans h'.topology, fun x hx => h'.switches x (h.switches x hx), ?_⟩
  intro r lr lr'' hlr hlr'' hm
  obtain ⟨lr', hlr', -⟩ := h.topology.router? hlr
  exact h'.routers r lr' lr'' hlr' hlr'' (h.routers r lr lr' hlr hlr' hm)

theorem Nb.Grows.of_same (u : Nat) (hs : nb'.switches = nb.switches)
    (hr : nb'.routers = nb.routers) : nb.Grows u nb' := by
  refine ⟨⟨by rw [hs], by rw [hr]⟩, fun x hx => hx.of_switches hs, fun r lr lr' h h' hm => ?_⟩
  have : nb'.router? r = nb.router? r := by rw [Nb.router?, Nb.router?, hr]
  rw [this, h] at h'
  exact Option.some.inj h' ▸ hm

theorem Nb.SameTopology.symm (h : nb.SameTopology nb') : nb'.SameTopology nb :=
  ⟨h.switches.symm, h.routers.symm⟩

theorem Nb.SameTopology.bare_mem (h : nb.SameTopology nb') {lr' : LogicalRouter}
    (hm : lr' ∈ nb'.routers) : ∃ lr ∈ nb.routers, lr.bare = lr'.bare := by
  have hb : lr'.bare ∈ nb'.routers.map LogicalRouter.bare := List.mem_map_of_mem hm
  rwa [h.routers, List.mem_map] at hb

/-- Links do not matter for how the routers are laid out. -/
theorem Nb.Routed.of_topology (h : nb.Routed ver) (ht : nb.SameTopology nb') : nb'.Routed ver := by
  have hmap : ∀ {β : Type} (f : LogicalRouter → β), (∀ lr, f lr.bare = f lr) →
      nb'.routers.map f = nb.routers.map f := by
    intro β f hf
    have hb : ∀ l : List LogicalRouter, l.map f = (l.map LogicalRouter.bare).map f := by
      intro l
      rw [List.map_map]
      exact List.map_congr_left fun lr _ => (hf lr).symm
    rw [hb, ht.routers, ← hb]
  refine ⟨?_, ?_, ?_, ?_, ?_⟩
  · rw [hmap LogicalRouter.uuid fun _ => rfl]
    exact h.uuids
  · rw [hmap LogicalRouter.name fun _ => rfl]
    exact h.names
  · intro lr' hm
    obtain ⟨lr, hlr, hb⟩ := ht.bare_mem hm
    have hn : lr.bare.name = lr'.bare.name := congrArg LogicalRouter.name hb
    exact hn ▸ h.spelled lr hlr
  · intro lr' hm
    obtain ⟨lr, hlr, hb⟩ := ht.bare_mem hm
    have hp : lr.bare.ports = lr'.bare.ports := congrArg LogicalRouter.ports hb
    exact hp ▸ h.addressed lr hlr
  · intro lr' hm v x hc
    obtain ⟨lr, hlr, hb⟩ := ht.bare_mem hm
    rw [ht.isSome_switch?]
    exact h.switches lr hlr v x (hc.of_bare hb.symm)

/-- What the links of a row depend on. -/
def linkKeys : List Str := [lbExtIdsVipKey, lbExtIdsLrRefKey, lbExtIdsLsRefsKey]

theorem LoadBalancer.HasVersion.congr
    (hk : row'.externalIds.get? lbExtIdsVipKey = row.externalIds.get? lbExtIdsVipKey)
    {v : IpVersion} : row'.HasVersion ver v ↔ row.HasVersion ver v := by
  unfold LoadBalancer.HasVersion
  rw [hk]

/-- A row that keeps these keys stays linked while its links grow. -/
theorem Reached.grow (h : Reached ver ex row nb) (hu : row'.uuid = row.uuid)
    (hm : row'.healthCheck = row.healthCheck)
    (hk : ∀ k ∈ linkKeys, row'.externalIds.get? k = row.externalIds.get? k)
    (hg : nb.Grows row.uuid nb') : Reached ver ex row' nb' := by
  have hvip := hk lbExtIdsVipKey (by decide)
  have hversion : ∀ v, row'.HasVersion ver v ↔ row.HasVersion ver v :=
    fun v => LoadBalancer.HasVersion.congr hvip
  obtain ⟨v, hv⟩ := h.vip
  obtain ⟨total, hr⟩ := h.refs
  refine ⟨⟨v, (hversion v).mpr hv⟩, hm.trans h.unmonitored, ⟨total, ?_⟩, ?_⟩
  · exact Counted.refs_of_same hr hu (loadLsRefs_congr (hk _ (by decide))) hg.switches
  · intro r lr' hlr' hname
    obtain ⟨lr, hlr, hbare⟩ := hg.topology.symm.router? hlr'
    have hn : lr.bare.name = lr'.bare.name := congrArg LogicalRouter.name hbare
    have hrefs : lrRefs row'.externalIds = lrRefs row.externalIds := by
      rw [lrRefs, lrRefs, hk _ (by decide)]
    obtain ⟨hlink, hsw⟩ := h.routers r lr hlr (by
      simp only [LogicalRouter.bare] at hn
      rw [hn, ← hrefs]
      exact hname)
    rw [hu]
    refine ⟨hg.routers r lr lr' hlr hlr' hlink, fun v x hv hc hx => ?_⟩
    exact hg.switches x (hsw v x ((hversion v).mp hv) (hc.of_bare hbare.symm) hx)

/-- The rows change only in what their links do not depend on. -/
theorem Linked.grow (h : Linked ver ex nb) (hw : nb'.WellFormed)
    (ht : nb.SameTopology nb')
    (hrows : ∀ row' ∈ nb'.loadBalancers, ∃ row ∈ nb.loadBalancers, row'.uuid = row.uuid ∧
      row'.healthCheck = row.healthCheck ∧
      (∀ k ∈ linkKeys, row'.externalIds.get? k = row.externalIds.get? k) ∧
      nb.Grows row.uuid nb') : Linked ver ex nb' := by
  refine ⟨hw, ht.distinctSwitches h.distinct, h.routed.of_topology ht, fun row' hm => ?_⟩
  obtain ⟨row, hrow, hu, hhc, hk, hg⟩ := hrows row' hm
  exact (h.rows row hrow).grow hu hhc hk hg

end Reaching

section Commands
variable {ver : Str → Option IpVersion} {ex : Nat → Str → Prop} {nb nb' : Nb} {c : Command}
  {u : Nat}

/-- The operation leaves the keys of the links and the health checks alone. -/
def LbOp.KeepsLinks : LbOp → Prop
  | setExternalIds kv => ∀ k ∈ linkKeys, k ∉ kv.keys
  | removeExternalId k => k ∉ linkKeys
  | setProtocol _ | clearVips | setVips _ | setOptions _ => True
  | _ => False

/-- The command at most adds links. -/
def Command.KeepsLinks : Command → Prop
  | .lbUpdate _ op => op.KeepsLinks
  | .lsLbAdd .. | .lrLbAdd .. | .portDelete _ => True
  | _ => False

theorem LbOp.KeepsLinks.apply {op : LbOp} (h : op.KeepsLinks) (row : LoadBalancer) :
    (LbOp.apply row op).healthCheck = row.healthCheck ∧
      ∀ k ∈ linkKeys, (LbOp.apply row op).externalIds.get? k = row.externalIds.get? k := by
  cases op with
  | setExternalIds kv =>
      refine ⟨rfl, fun k hk => ?_⟩
      simp only [LbOp.apply]
      rw [Dict.get?_update, (Dict.get?_eq_none_iff kv k).mpr (h k hk), Option.none_or]
  | removeExternalId j =>
      exact ⟨rfl, fun k hk => Dict.get?_erase_of_ne _ fun he => h (he ▸ hk)⟩
  | setProtocol | clearVips | setVips | setOptions => exact ⟨rfl, fun _ _ => rfl⟩
  | _ => exact h.elim

/-- `lr_lb_add`, done. -/
def Nb.linkRouter (nb : Nb) (r u : Nat) : Nb :=
  nb.updateRouter r fun lr =>
    { lr with loadBalancer := if u ∈ lr.loadBalancer then lr.loadBalancer
                              else lr.loadBalancer ++ [u] }

theorem Nb.router?_linkRouter (nb : Nb) (r u r' : Nat) :
    (nb.linkRouter r u).router? r' = (nb.router? r').map fun lr =>
      if lr.uuid = r then
        { lr with loadBalancer := if u ∈ lr.loadBalancer then lr.loadBalancer
                                  else lr.loadBalancer ++ [u] }
      else lr :=
  Nb.router?_updateRouter nb r r' fun _ => rfl

theorem Nb.grows_linkRouter (v : Nat) (nb : Nb) (r u : Nat) : nb.Grows v (nb.linkRouter r u) := by
  refine ⟨⟨rfl, map_updateRouter nb _ fun _ _ => rfl⟩, fun x hx => hx.of_switches rfl, ?_⟩
  intro r' lr lr' hlr hlr' hm
  rw [Nb.router?_linkRouter, hlr, Option.map_some, Option.some.injEq] at hlr'
  rw [← hlr']
  split
  · dsimp only
    split
    · exact hm
    · exact List.mem_append_left _ hm
  · exact hm

theorem Nb.grows_linkSwitch (v : Nat) (nb : Nb) (w u : Nat) : nb.Grows v (nb.linkSwitch w u) := by
  refine ⟨nb.sameTopology_linkSwitch w u, fun x hx => hx.link w u, fun r lr lr' h h' hm => ?_⟩
  have hr : (nb.linkSwitch w u).router? r = nb.router? r := rfl
  rw [hr, h] at h'
  exact Option.some.inj h' ▸ hm

/-- The state between the commits of a request on the row `u`. -/
def LinkedAt (ver : Str → Option IpVersion) (ex : Nat → Str → Prop) (u : Nat) (nb : Nb) : Prop :=
  Linked ver ex nb ∧ (nb.lb? u).isSome

/-- No row is lost when one is replaced. -/
theorem Nb.isSome_putLb {row row' : LoadBalancer} (hw : nb.WellFormed)
    (hrow : nb.lb? row'.uuid = some row) {v : Nat} (hv : (nb.lb? v).isSome) :
    ((nb.putLb row').lb? v).isSome := by
  obtain ⟨r, hr⟩ := Option.isSome_iff_exists.mp hv
  obtain ⟨hrm, rfl⟩ := Nb.lb?_eq_some hr
  by_cases he : r.uuid = row'.uuid
  · rw [he, Nb.lb?_putLb row' hrow]
    rfl
  · have hm := (Nb.mem_putLb hrow).mpr (.inr ⟨hrm, he⟩)
    rw [(hw.putLb row').lb?_of_mem hm]
    rfl

/-- A row is replaced by one with the same keys of links. -/
theorem LinkedAt.putLb {row row' : LoadBalancer} (h : LinkedAt ver ex u nb)
    (hrow : nb.lb? row.uuid = some row) (hu : row'.uuid = row.uuid)
    (hm : row'.healthCheck = row.healthCheck)
    (hk : ∀ k ∈ linkKeys, row'.externalIds.get? k = row.externalIds.get? k) :
    LinkedAt ver ex u (nb.putLb row') := by
  refine ⟨h.1.grow (h.1.wellFormed.putLb _) ⟨rfl, rfl⟩ fun lb hlb => ?_, ?_⟩
  · rcases (Nb.mem_putLb (hu ▸ hrow)).mp hlb with rfl | ⟨hlb, -⟩
    · exact ⟨row, (Nb.lb?_eq_some hrow).1, hu, hm, hk, .of_same _ rfl rfl⟩
    · exact ⟨lb, hlb, rfl, rfl, fun _ _ => rfl, .of_same _ rfl rfl⟩
  · exact Nb.isSome_putLb h.1.wellFormed (hu ▸ hrow) h.2

theorem Command.KeepsLinks.linkedAt (hc : c.KeepsLinks) (h : LinkedAt ver ex u nb)
    (ha : Nb.apply c nb = .ok nb') : LinkedAt ver ex u nb' := by
  obtain ⟨hl, hu⟩ := h
  have hsame : nb'.loadBalancers = nb.loadBalancers → nb'.nextUuid = nb.nextUuid →
      (∀ v, nb.Grows v nb') → LinkedAt ver ex u nb' := by
    intro hrows hnext hg
    refine ⟨hl.grow ⟨hrows ▸ hl.wellFormed.nodup, fun row hm => ?_⟩ (hg u).topology ?_, ?_⟩
    · rw [hnext]
      exact hl.wellFormed.lt_next row (hrows ▸ hm)
    · intro row hm
      exact ⟨row, hrows ▸ hm, rfl, rfl, fun _ _ => rfl, hg _⟩
    · rw [Nb.lb?, hrows]
      exact hu
  cases c with
  | lbUpdate v op =>
      cases hv : nb.lb? v with
      | none => simp [Nb.apply, hv] at ha
      | some row =>
          have huv : row.uuid = v := (Nb.lb?_eq_some hv).2
          subst huv
          rw [Nb.apply_lbUpdate hv, Except.ok.injEq,
            Nb.updateLb_eq_putLb hl.wellFormed hv (LbOp.uuid_apply row op)] at ha
          subst ha
          obtain ⟨hhc, hkeys⟩ := LbOp.KeepsLinks.apply hc row
          exact LinkedAt.putLb ⟨hl, hu⟩ hv (LbOp.uuid_apply row op) hhc hkeys
  | lsLbAdd ref v =>
      simp only [Nb.apply] at ha
      split at ha
      · cases ha
        exact hsame rfl rfl fun w => Nb.grows_linkSwitch w nb _ _
      · cases ha
  | lrLbAdd r v =>
      simp only [Nb.apply] at ha
      split at ha
      · cases ha
        exact hsame rfl rfl fun w => Nb.grows_linkRouter w nb _ _
      · cases ha
  | portDelete id =>
      cases ha
      exact hsame rfl rfl fun w => .of_same w rfl rfl
  | _ => exact hc.elim

end Commands

section Routers
variable {ver : Str → Option IpVersion} {ex : Nat → Str → Prop} {env : Env} {nb nb' : Nb}
  {row lb : LoadBalancer} {lr : LogicalRouter} {u : Nat}

/-- All switches of the names are linked to the row. -/
theorem transact_linkSwitches {nets : List Str} (hrow : (nb.lb? u).isSome)
    (hnets : ∀ x ∈ nets, (nb.switch? (.name x)).isSome) :
    ∃ nb', Prog.transact Nb.apply (nets.map fun x => .lsLbAdd (.name x) u) nb = .ok nb' ∧
      nb'.loadBalancers = nb.loadBalancers ∧ nb'.nextUuid = nb.nextUuid ∧
      (∀ v, nb.Grows v nb') ∧ ∀ x ∈ nets, nb'.LinkedTo u x := by
  induction nets generalizing nb with
  | nil => exact ⟨nb, rfl, rfl, rfl, fun v => .refl v nb, nofun⟩
  | cons x nets ih =>
      obtain ⟨row, hrow'⟩ := Option.isSome_iff_exists.mp hrow
      obtain ⟨ls, hls⟩ := Option.isSome_iff_exists.mp (hnets x (List.mem_cons_self ..))
      have hg : ∀ v, nb.Grows v (nb.linkSwitch ls.uuid u) := fun v => Nb.grows_linkSwitch v nb _ u
      have hnets' : ∀ y ∈ nets, ((nb.linkSwitch ls.uuid u).switch? (.name y)).isSome := by
        intro y hy
        rw [(hg u).topology.isSome_switch?]
        exact hnets y (List.mem_cons_of_mem _ hy)
      have hrow'' : ((nb.linkSwitch ls.uuid u).lb? u).isSome := hrow
      obtain ⟨nb', ht, hrows, hnext, hg', hl⟩ := ih hrow'' hnets'
      refine ⟨nb', ?_, hrows, hnext, fun v => (hg v).trans (hg' v), fun y hy => ?_⟩
      · rw [List.map_cons, Prog.transact_cons, Nb.apply_lsLbAdd hls hrow']
        exact ht
      · rcases List.mem_cons.mp hy with rfl | hy
        · exact (hg' u).switches _ (Nb.linkedTo_link hls)
        · exact hl y hy

/-- A text with one more part. -/
theorem splitOn_append {t name : Str} (hname : ',' ∉ name) :
    (t ++ ',' :: name).splitOn ',' = t.splitOn ',' ++ [name] := by
  have hjoin : t ++ ',' :: name = Str.join ',' (t.splitOn ',' ++ [name]) := by
    rw [Str.join_append_singleton _ _ _ (List.splitOn_ne_nil ',' t), Str.join_splitOn]
  rw [hjoin]
  refine Str.splitOn_join (fun s hs => ?_) (by simp)
  rcases List.mem_append.mp hs with hs | hs
  · exact Str.notMem_of_mem_splitOn hs
  · rw [List.mem_singleton.mp hs]
    exact hname

/-- The text of the routers with one more. -/
def lrRefWith (e : Dict Str Str) (name : Str) : Str :=
  match e.get? lbExtIdsLrRefKey with
  | some (c :: ref) => (c :: ref) ++ ',' :: name
  | _ => name

theorem mem_lrRefs_add {e : Dict Str Str} {name : Str} (hname : ',' ∉ name ∧ strip name = name)
    {x : Str} (hx : x ∈ lrRefs (e.set lbExtIdsLrRefKey (lrRefWith e name))) :
    x ∈ lrRefs e ∨ x = name := by
  have hone : (name.splitOn ',').map strip = [name] := by
    rw [List.splitOn_eq_singleton hname.1]
    simp [hname.2]
  have hnew : x ∈ ((lrRefWith e name).splitOn ',').map strip := by
    unfold lrRefs at hx
    rw [Dict.get?_set_self] at hx
    cases hw : lrRefWith e name with
    | nil =>
        rw [hw] at hx
        cases hx
    | cons c t =>
        rw [hw] at hx
        exact hx
  unfold lrRefWith at hnew
  rcases he : e.get? lbExtIdsLrRefKey with _ | _ | ⟨c, t⟩
  · rw [he, hone] at hnew
    exact .inr (List.mem_singleton.mp hnew)
  · rw [he, hone] at hnew
    exact .inr (List.mem_singleton.mp hnew)
  · rw [he, splitOn_append hname.1, List.map_append, List.mem_append] at hnew
    refine hnew.imp (fun h => ?_) fun h => ?_
    · rw [lrRefs, he]
      exact h
    · rw [List.map_singleton, hname.2] at h
      exact List.mem_singleton.mp h

theorem Nb.router?_eq_some {r : Nat} (h : nb.router? r = some lr) :
    lr ∈ nb.routers ∧ lr.uuid = r :=
  ⟨List.mem_of_find?_eq_some h, by simpa using List.find?_some h⟩

theorem Nb.Routed.eq_of_name (h : nb.Routed ver) {lr' : LogicalRouter} (hm : lr ∈ nb.routers)
    (hm' : lr' ∈ nb.routers) (hn : lr.name = lr'.name) : lr = lr' :=
  List.inj_on_of_nodup_map h.names hm hm' hn

/-- The row that names one more router. -/
def LoadBalancer.naming (row : LoadBalancer) (name : Str) : LoadBalancer :=
  { row with
    externalIds := row.externalIds.set lbExtIdsLrRefKey (lrRefWith row.externalIds name) }

/-- A row can name a router that is linked to it with all it connects. -/
theorem Linked.nameRouter (h : LinkedAt ver ex row.uuid nb) (hrow : nb.lb? row.uuid = some row)
    (hlr : nb.router? u = some lr) (hlink : row.uuid ∈ lr.loadBalancer)
    (hls : ∀ v x, row.HasVersion ver v → lr.Connects ver v x → nb.LinkedTo row.uuid x) :
    LinkedAt ver ex row.uuid (nb.putLb (row.naming lr.name)) := by
  obtain ⟨hm, hname⟩ := Nb.router?_eq_some hlr
  have hrowm := (Nb.lb?_eq_some hrow).1
  have hsame : ∀ v, nb.Grows v (nb.putLb (row.naming lr.name)) := fun v => .of_same v rfl rfl
  refine ⟨⟨h.1.wellFormed.putLb _, h.1.distinct, h.1.routed.of_topology ⟨rfl, rfl⟩, ?_⟩, ?_⟩
  · intro row' hm'
    have hput : (row.naming lr.name).uuid = row.uuid := rfl
    rcases (Nb.mem_putLb (hput ▸ hrow)).mp hm' with rfl | ⟨hm', -⟩
    · obtain ⟨v, hv⟩ := (h.1.rows row hrowm).vip
      obtain ⟨total, hr⟩ := (h.1.rows row hrowm).refs
      have hversion : ∀ v, (row.naming lr.name).HasVersion ver v ↔ row.HasVersion ver v :=
        fun v => LoadBalancer.HasVersion.congr (Dict.get?_set_of_ne _ _ (by decide))
      refine ⟨⟨v, (hversion v).mpr hv⟩, (h.1.rows row hrowm).unmonitored, ⟨total, ?_⟩, ?_⟩
      · exact Counted.refs_of_same hr rfl (loadLsRefs_congr (Dict.get?_set_of_ne _ _ (by decide)))
          (hsame row.uuid).switches
      · intro r lr' hlr' hin
        have hlr' : nb.router? r = some lr' := hlr'
        rcases mem_lrRefs_add (h.1.routed.spelled lr hm) hin with hin | hin
        · obtain ⟨hl, hs⟩ := (h.1.rows row hrowm).routers r lr' hlr' hin
          exact ⟨hl, fun v x hv hc hx => (hs v x ((hversion v).mp hv) hc hx).of_switches rfl⟩
        · obtain rfl := h.1.routed.eq_of_name hm (Nb.router?_eq_some hlr').1 hin.symm
          exact ⟨hlink, fun v x hv hc _ => (hls v x ((hversion v).mp hv) hc).of_switches rfl⟩
    · exact (h.1.rows row' hm').grow rfl rfl (fun _ _ => rfl) (hsame row'.uuid)
  · have hput : (nb.putLb (row.naming lr.name)).lb? row.uuid = some (row.naming lr.name) :=
      Nb.lb?_putLb (row.naming lr.name) hrow
    rw [hput]
    rfl

/-- The commands of an association with a router. -/
theorem commands_associateLr {live : LogicalRouter} {v : IpVersion} {nets : List Str}
    (hrow : nb.lb? lb.uuid = some row) (hlr : nb.router? lr.uuid = some live)
    (hv : vipVersion env row = .ok v) (hnets : findLsForLr env live v = .ok nets) :
    getLbToLrAssociationCommands env nb lb lr false false =
      .ok (.lrLbAdd live.uuid row.uuid :: (nets.map fun x => .lsLbAdd (.name x) row.uuid) ++
        if Str.contains live.name ((row.externalIds.get? lbExtIdsLrRefKey).getD "None".toList)
        then [] else [.lbUpdate row.uuid (.setExternalIds (.single lbExtIdsLrRefKey
          (lrRefWith row.externalIds live.name)))]) := by
  simp only [getLbToLrAssociationCommands, live_of_lb? hrow, hlr, Option.getD_some,
    Bool.false_eq_true, if_false, addLbToLrAssociation, hv, hnets, Bind.bind, Except.bind,
    Bool.false_and, Bool.not_false, List.filter_true]
  rfl

/-- The links of an association with a router, in the order they are made. -/
theorem transact_linkRouter {v : IpVersion} {nets : List Str}
    (h : LinkedAt env.ipVersion ex row.uuid nb) (hrow : nb.lb? row.uuid = some row)
    (hlr : nb.router? lr.uuid = some lr) (hnets : findLsForLr env lr v = .ok nets) :
    ∃ nb', Prog.transact Nb.apply (.lrLbAdd lr.uuid row.uuid ::
        nets.map fun x => .lsLbAdd (.name x) row.uuid) nb = .ok nb' ∧
      LinkedAt env.ipVersion ex row.uuid nb' ∧ nb'.loadBalancers = nb.loadBalancers ∧
      (∀ w, nb.Grows w nb') ∧ (∃ lr', nb'.router? lr.uuid = some lr' ∧ lr'.bare = lr.bare ∧
        row.uuid ∈ lr'.loadBalancer) ∧ ∀ x ∈ nets, nb'.LinkedTo row.uuid x := by
  have hadd : Nb.apply (.lrLbAdd lr.uuid row.uuid) nb = .ok (nb.linkRouter lr.uuid row.uuid) := by
    simp only [Nb.apply, hlr, hrow]
    rfl
  have h₁ : LinkedAt env.ipVersion ex row.uuid (nb.linkRouter lr.uuid row.uuid) :=
    Command.KeepsLinks.linkedAt (c := .lrLbAdd lr.uuid row.uuid) trivial h hadd
  have hg₁ : ∀ w, nb.Grows w (nb.linkRouter lr.uuid row.uuid) :=
    fun w => Nb.grows_linkRouter w nb lr.uuid row.uuid
  have hswitches : ∀ x ∈ nets, ((nb.linkRouter lr.uuid row.uuid).switch? (.name x)).isSome := by
    intro x hx
    rw [(hg₁ row.uuid).topology.isSome_switch?]
    exact h.1.routed.switches lr (Nb.router?_eq_some hlr).1 v x ((mem_findLsForLr hnets x).mp hx)
  obtain ⟨nb₂, ht₂, hrows₂, hnext₂, hg₂, hl₂⟩ := transact_linkSwitches h₁.2 hswitches
  have hrow₂ : nb₂.lb? row.uuid = some row := by
    rw [Nb.lb?, hrows₂]
    exact hrow
  refine ⟨nb₂, ?_, ⟨h₁.1.grow ⟨?_, ?_⟩ (hg₂ row.uuid).topology fun x hx => ?_, by rw [hrow₂]; rfl⟩,
    hrows₂, fun w => (hg₁ w).trans (hg₂ w), ?_, hl₂⟩
  · rw [Prog.transact_cons, hadd]
    exact ht₂
  · rw [hrows₂]
    exact h₁.1.wellFormed.nodup
  · rw [hrows₂, hnext₂]
    exact h₁.1.wellFormed.lt_next
  · exact ⟨x, hrows₂ ▸ hx, rfl, rfl, fun _ _ => rfl, hg₂ x.uuid⟩
  · have hlr₁ := Nb.router?_linkRouter nb lr.uuid row.uuid lr.uuid
    rw [hlr, Option.map_some, if_pos rfl] at hlr₁
    obtain ⟨lr', hlr', hbare⟩ := (hg₂ row.uuid).topology.router? hlr₁
    refine ⟨lr', hlr', hbare, (hg₂ row.uuid).routers _ _ _ hlr₁ hlr' ?_⟩
    dsimp only
    split
    · assumption
    · exact List.mem_append_right _ (List.mem_singleton_self _)

/-- What an association with a router leaves of other rows. -/
structure Nb.Joins (u : Nat) (nb nb' : Nb) : Prop where
  grows : ∀ v, nb.Grows v nb'
  others : ∀ row ∈ nb'.loadBalancers, row.uuid ≠ u → row ∈ nb.loadBalancers
  alive : ∀ v, (nb.lb? v).isSome → (nb'.lb? v).isSome

/-- An association with a router goes through and links the row. -/
theorem transact_associateLr {live : LogicalRouter} (h : LinkedAt env.ipVersion ex lb.uuid nb)
    (hlr : nb.router? lr.uuid = some live) :
    ∃ cs nb', getLbToLrAssociationCommands env nb lb lr false false = .ok cs ∧ cs ≠ [] ∧
      Prog.transact Nb.apply cs nb = .ok nb' ∧ LinkedAt env.ipVersion ex lb.uuid nb' ∧
      nb.Joins lb.uuid nb' := by
  obtain ⟨row, hrow⟩ := Option.isSome_iff_exists.mp h.2
  obtain ⟨hrowm, hu⟩ := Nb.lb?_eq_some hrow
  obtain ⟨hlive, hr⟩ := Nb.router?_eq_some hlr
  obtain ⟨v, vip, hvip, hv⟩ := (h.1.rows row hrowm).vip
  have hversion : vipVersion env row = .ok v := by
    simp [vipVersion, hvip, hv]
  obtain ⟨nets, hnets⟩ := findLsForLr_ok (h.1.routed.addressed live hlive) v
  have hcs := commands_associateLr hrow hlr hversion hnets
  rw [← hu] at h hrow ⊢
  obtain ⟨nb₂, ht₂, h₂, hrows₂, hg₂, ⟨lr', hlr', hbare, hlink⟩, hl₂⟩ :=
    transact_linkRouter h hrow (hr ▸ hlr) hnets
  have hname : lr'.bare.name = live.bare.name := congrArg LogicalRouter.name hbare
  simp only [LogicalRouter.bare] at hname
  have hrow₂ : nb₂.lb? row.uuid = some row := by
    rw [Nb.lb?, hrows₂]
    exact hrow
  by_cases hin : Str.contains live.name
      ((row.externalIds.get? lbExtIdsLrRefKey).getD "None".toList) = true
  · rw [if_pos hin, List.append_nil] at hcs
    refine ⟨_, nb₂, hcs, List.cons_ne_nil _ _, ht₂, h₂, hg₂, fun x hx _ => hrows₂ ▸ hx,
      fun v hv => ?_⟩
    rw [Nb.lb?, hrows₂]
    exact hv
  · rw [if_neg hin] at hcs
    have hnamed : LinkedAt env.ipVersion ex row.uuid (nb₂.putLb (row.naming live.name)) := by
      rw [← hname]
      refine Linked.nameRouter h₂ hrow₂ hlr' hlink fun w x hw hc => hl₂ x ?_
      obtain ⟨vip', hvip', hw⟩ := hw
      rw [hvip, Option.some.injEq] at hvip'
      rw [← hvip', hv, Option.some.injEq] at hw
      subst hw
      exact (mem_findLsForLr hnets x).mpr (hc.of_bare hbare)
    refine ⟨_, nb₂.putLb (row.naming live.name), hcs, List.cons_ne_nil _ _, ?_, hnamed,
      fun w => (hg₂ w).trans (.of_same w rfl rfl), fun x hx hne => ?_, fun v hv => ?_⟩
    · have hrow' : Nb.apply (.lbUpdate row.uuid (.setExternalIds (.single lbExtIdsLrRefKey
          (lrRefWith row.externalIds live.name)))) nb₂ =
          .ok (nb₂.putLb (row.naming live.name)) := by
        rw [Nb.apply_lbUpdate hrow₂, Nb.updateLb_eq_putLb h₂.1.wellFormed hrow₂ rfl]
        simp only [LbOp.apply, Dict.update_single]
        rfl
      rw [Prog.transact_append, ht₂]
      simp only [Except.bind, Prog.transact_cons, hrow']
      rfl
    · have hput : (row.naming live.name).uuid = row.uuid := rfl
      rcases (Nb.mem_putLb (hput ▸ hrow₂)).mp hx with rfl | ⟨hx, -⟩
      · exact absurd rfl hne
      · exact hrows₂ ▸ hx
    · have hput : nb₂.lb? (row.naming live.name).uuid = some row := hrow₂
      refine Nb.isSome_putLb h₂.1.wellFormed hput ?_
      rw [Nb.lb?, hrows₂]
      exact hv

theorem ends_associateLr {live : LogicalRouter} {Q : Except Exc Unit → Nb → Prop}
    (h : LinkedAt env.ipVersion ex lb.uuid nb) (hlr : nb.router? lr.uuid = some live)
    (hQ : ∀ s, LinkedAt env.ipVersion ex lb.uuid s → nb.Joins lb.uuid s → Q (.ok ()) s) :
    nb.Ends (associateLr env lb lr) Q := by
  obtain ⟨cs, nb', hcs, hne, ht, h', hj⟩ := transact_associateLr h hlr
  exact .tryCatch (.retry rfl (commitsOnce_computed hcs hne ht) (hQ nb' h' hj))

end Routers

section Switches
variable {ver : Str → Option IpVersion} {ex : Nat → Str → Prop} {env : Env} {nb : Nb}
  {row lb : LoadBalancer} {n : Str} {ls : LogicalSwitch} {a : LsAssociation}
  {Q : Except Exc Unit → Nb → Prop}

/-- The row is linked to what it needs when a commit takes only other links. -/
theorem LinkedAt.relink {total : Str → Nat} (h : LinkedAt ver ex row.uuid nb)
    (hrow : nb.lb? row.uuid = some row) (row' : LoadBalancer) (nb' : Nb)
    (hu : row'.uuid = row.uuid) (hm : row'.healthCheck = row.healthCheck)
    (hk : ∀ k ∈ [lbExtIdsVipKey, lbExtIdsLrRefKey],
      row'.externalIds.get? k = row.externalIds.get? k)
    (hrows : nb'.loadBalancers = (nb.putLb row').loadBalancers)
    (hnext : nb'.nextUuid = nb.nextUuid) (ht : nb.SameTopology nb')
    (hrouters : nb'.routers = nb.routers) (hr : Refs row' total nb')
    (hlinks : ∀ v x, nb.LinkedTo v x → nb'.LinkedTo v x ∨ v = row.uuid ∧
      ∀ r lr w, nb.router? r = some lr → lr.name ∈ lrRefs row.externalIds →
        row.HasVersion ver w → ¬lr.Connects ver w x) : LinkedAt ver ex row.uuid nb' := by
  have hput := h.1.wellFormed.putLb row'
  have hmem : ∀ x ∈ nb'.loadBalancers, x = row' ∨ x ∈ nb.loadBalancers ∧ x.uuid ≠ row.uuid := by
    intro x hx
    rw [hrows] at hx
    exact hu ▸ (Nb.mem_putLb (hu ▸ hrow)).mp hx
  have hrouter : ∀ r, nb'.router? r = nb.router? r := by
    intro r
    rw [Nb.router?, Nb.router?, hrouters]
  refine ⟨⟨⟨?_, ?_⟩, ht.distinctSwitches h.1.distinct, h.1.routed.of_topology ht, ?_⟩, ?_⟩
  · rw [hrows]
    exact hput.nodup
  · rw [hrows, hnext]
    exact hput.lt_next
  · intro x hx
    rcases hmem x hx with rfl | ⟨hx, hne⟩
    · have hold := h.1.rows row (Nb.lb?_eq_some hrow).1
      obtain ⟨v, hv⟩ := hold.vip
      have hversion : ∀ v, x.HasVersion ver v ↔ row.HasVersion ver v :=
        fun v => LoadBalancer.HasVersion.congr (hk _ (by decide))
      have hnames : lrRefs x.externalIds = lrRefs row.externalIds := by
        rw [lrRefs, lrRefs, hk _ (by decide)]
      refine ⟨⟨v, (hversion v).mpr hv⟩, hm.trans hold.unmonitored, ⟨total, hr⟩, ?_⟩
      intro r lr hlr hname
      rw [hrouter] at hlr
      rw [hnames] at hname
      obtain ⟨hl, hs⟩ := hold.routers r lr hlr hname
      refine ⟨hu ▸ hl, fun v y hv hcon hy => ?_⟩
      rw [hversion] at hv
      rcases hlinks row.uuid y (hs v y hv hcon hy) with hkeep | ⟨-, hno⟩
      · exact hu ▸ hkeep
      · exact absurd hcon (hno r lr v hlr hname hv)
    · refine (h.1.rows x hx).grow rfl rfl (fun _ _ => rfl) ⟨ht, fun y hy => ?_, ?_⟩
      · rcases hlinks x.uuid y hy with hkeep | ⟨he, -⟩
        · exact hkeep
        · exact absurd he hne
      · intro r lr lr' hlr hlr' hm
        rw [hrouter, hlr] at hlr'
        exact Option.some.inj hlr' ▸ hm
  · rw [Nb.lb?, hrows, ← Nb.lb?, ← hu, Nb.lb?_putLb row' (hu ▸ hrow)]
    rfl

theorem LinkedAt.counts {cs : List Command} {total : Str → Nat} {refs : Dict Str Nat} {nb₁ : Nb}
    (h : LinkedAt ver ex row.uuid nb) (hrow : nb.lb? row.uuid = some row)
    (hc : Counts row nb cs total refs nb₁)
    (hlinks : ∀ v x, nb.LinkedTo v x → nb₁.LinkedTo v x ∨ v = row.uuid ∧
      ∀ r lr w, nb.router? r = some lr → lr.name ∈ lrRefs row.externalIds →
        row.HasVersion ver w → ¬lr.Connects ver w x) :
    LinkedAt ver ex row.uuid (nb₁.putLb (row.counting refs)) := by
  refine h.relink hrow (row.counting refs) _ rfl rfl (fun k hk => ?_) ?_ hc.next
    ⟨hc.topology.switches, hc.topology.routers⟩ hc.routers hc.refs fun v x hx => ?_
  · have hne : k ≠ lbExtIdsLsRefsKey := by
      simp only [List.mem_cons, List.not_mem_nil, or_false] at hk
      rcases hk with rfl | rfl
      · decide
      · decide
    exact Dict.get?_set_of_ne _ _ hne
  · rw [Nb.putLb, Nb.putLb, Nb.loadBalancers_updateLb, Nb.loadBalancers_updateLb, hc.rows]
  · exact (hlinks v x hx).imp_left fun hk => hk.of_switches rfl

/-- A switch is linked without being counted. -/
theorem LinkedAt.linkSwitch (h : LinkedAt ver ex row.uuid nb) (w : Nat) :
    LinkedAt ver ex row.uuid (nb.linkSwitch w row.uuid) := by
  refine ⟨h.1.grow ⟨h.1.wellFormed.nodup, h.1.wellFormed.lt_next⟩
    (nb.sameTopology_linkSwitch w row.uuid) fun x hx => ?_, h.2⟩
  exact ⟨x, hx, rfl, rfl, fun _ _ => rfl, Nb.grows_linkSwitch _ nb w row.uuid⟩

/-- A network that is joined is linked, whether it is counted or not. -/
theorem ends_joinLs (h : LinkedAt ver ex lb.uuid nb) (hn : IsUuid n)
    (hname : lsNameOf env a = .ok (some (some (ovnName n))))
    (hls : nb.switch? (.name (ovnName n)) = some ls) (hassoc : a.associate = true)
    (hsync : a.isSync = false)
    (hQ : ∀ s, LinkedAt ver ex lb.uuid s → nb.SameTopology s →
      (∀ v x, nb.LinkedTo v x → s.LinkedTo v x) → s.LinkedTo lb.uuid (ovnName n) →
        (a.updateLsRef = false →
        s.loadBalancers = nb.loadBalancers) → Q (.ok ()) s) :
    nb.Ends (updateLbToLsAssociation env lb a) Q := by
  obtain ⟨row, hrow⟩ := Option.isSome_iff_exists.mp h.2
  obtain ⟨hrowm, hu⟩ := Nb.lb?_eq_some hrow
  obtain ⟨total, hr⟩ := (h.1.rows row hrowm).refs
  rw [← hu] at h hQ
  have hrow' : nb.lb? row.uuid = some row := hu ▸ hrow
  have hcommands : ∀ cs, lsCommands row a (some (ovnName n)) (some ls) = .ok cs →
      getLbToLsAssociationCommands env nb lb a = .ok cs := by
    intro cs hcs
    simp only [getLbToLsAssociationCommands, hname, Bind.bind, Except.bind, Option.bind_some, hls,
      LoadBalancer.live, hrow, Option.getD_some, hcs]
  cases hupdate : a.updateLsRef with
  | true =>
      obtain ⟨cs, refs, nb₁, hcs, hc, hgrow⟩ := hr.join h.1.wellFormed h.1.distinct hrow' hn hls
        hassoc hupdate hsync
      have hl := h.counts hrow' hc fun v x hx => .inl (hgrow v x hx)
      refine Prog.Ends.retry rfl (commitsOnce_computed (hcommands cs hcs) hc.ne_nil hc.done)
        (hQ _ hl ⟨hc.topology.switches, hc.topology.routers⟩
          (fun v x hx => (hgrow v x hx).of_switches rfl) ?_ fun hf => ?_)
      · refine hc.refs.links n hn ?_
        rw [if_pos rfl]
        split <;> omega
      · cases hf.symm.trans hupdate
  | false =>
      have hupd : ∀ refs, updateLsRefs row a refs = .ok [] := by
        intro refs
        simp [updateLsRefs, hupdate]
      cases hcount : (loadLsRefs row.externalIds).get? (ovnName n) with
      | none =>
          have hcs : lsCommands row a (some (ovnName n)) (some ls) =
              .ok [.lsLbAdd (.uuid ls.uuid) row.uuid] := by
            simp only [lsCommands, hsync, Bool.false_and, Bool.false_eq_true, if_false, hassoc,
              if_true, hcount, hupd, Except.map]
          have ht : Prog.transact Nb.apply [.lsLbAdd (.uuid ls.uuid) row.uuid] nb =
              .ok (nb.linkSwitch ls.uuid row.uuid) := by
            rw [Prog.transact_cons, Nb.apply_lsLbAdd
              (h.1.distinct.switch? (Nb.switch?_name_eq_some hls).1) hrow']
            rfl
          exact Prog.Ends.retry rfl (commitsOnce_computed (hcommands _ hcs) (by simp) ht)
            (hQ _ (h.linkSwitch ls.uuid) (nb.sameTopology_linkSwitch _ _)
              (fun v x hx => hx.link _ _) (Nb.linkedTo_link hls) fun _ => rfl)
      | some k =>
          have hcs : lsCommands row a (some (ovnName n)) (some ls) = .ok [] := by
            simp only [lsCommands, hsync, Bool.false_and, Bool.false_eq_true, if_false, hassoc,
              if_true, hcount, hupd]
          have hne : total n ≠ 0 := by
            intro hz
            have := hr.counts n hn
            rw [hcount, if_pos hz] at this
            cases this
          refine .retry_of_ok (.get_bind (.ofExcept_bind (hcommands _ hcs) (.pure ⟨rfl, ?_⟩)))
          exact hQ nb h (.refl nb) (fun _ _ hx => hx) (hr.links n hn hne) fun _ => rfl

/-- Leaving a network keeps the rows linked when it is counted again, or when no router
of the row connects it. -/
theorem ends_leaveLs (h : LinkedAt ver ex lb.uuid nb) (hrow : nb.lb? lb.uuid = some row)
    (hn : IsUuid n) (hname : lsNameOf env a = .ok (some (some (ovnName n))))
    (hls : nb.switch? (.name (ovnName n)) = some ls) (hassoc : a.associate = false)
    (hupdate : a.updateLsRef = true) (hsync : a.isSync = false)
    (hkeep : (∃ k, 2 ≤ k ∧ (loadLsRefs row.externalIds).get? (ovnName n) = some k) ∨
      ∀ r lr w, nb.router? r = some lr → lr.name ∈ lrRefs row.externalIds →
        row.HasVersion ver w → ¬lr.Connects ver w (ovnName n))
    (hQ : ∀ s, LinkedAt ver ex lb.uuid s → Q (.ok ()) s) :
    nb.Ends (updateLbToLsAssociation env lb a) Q := by
  obtain ⟨hrowm, hu⟩ := Nb.lb?_eq_some hrow
  obtain ⟨total, hr⟩ := (h.1.rows row hrowm).refs
  rw [← hu] at h hQ
  have hrow' : nb.lb? row.uuid = some row := hu ▸ hrow
  have hcommands : ∀ cs, lsCommands row a (some (ovnName n)) (some ls) = .ok cs →
      getLbToLsAssociationCommands env nb lb a = .ok cs := by
    intro cs hcs
    simp only [getLbToLsAssociationCommands, hname, Bind.bind, Except.bind, Option.bind_some, hls,
      LoadBalancer.live, hrow, Option.getD_some, hcs]
  have hcount := hr.counts n hn
  by_cases hzero : total n = 0
  · rw [if_pos hzero] at hcount
    have hcs : lsCommands row a (some (ovnName n)) (some ls) =
        .ok [.lsLbDel (.uuid ls.uuid) row.uuid true] := by
      simp only [lsCommands, hsync, Bool.false_and, Bool.false_eq_true, if_false, hassoc, hcount]
    have hno : ∀ r lr w, nb.router? r = some lr → lr.name ∈ lrRefs row.externalIds →
        row.HasVersion ver w → ¬lr.Connects ver w (ovnName n) := by
      rcases hkeep with ⟨k, -, hk⟩ | hno
      · rw [hcount] at hk
        cases hk
      · exact hno
    have hgone : ∃ nb', Nb.apply (.lsLbDel (.uuid ls.uuid) row.uuid true) nb = .ok nb' ∧
        LinkedAt ver ex row.uuid nb' := by
      simp only [Nb.apply, h.1.distinct.switch? (Nb.switch?_name_eq_some hls).1, or_true, if_true]
      have hother : ∀ x, x ≠ ovnName n → nb.LinkedTo row.uuid x →
          (nb.unlinkSwitch ls.uuid row.uuid).LinkedTo row.uuid x :=
        fun x hne hx => hx.unlink h.1.distinct hls hne _
      refine ⟨_, rfl, h.relink hrow' row (nb.unlinkSwitch ls.uuid row.uuid) rfl rfl
        (fun _ _ => rfl) ?_ rfl (nb.sameTopology_unlinkSwitch _ _) rfl
        ⟨hr.counts, fun m hm hne => ?_⟩ fun v x hx => ?_⟩
      · rw [Nb.putLb_self h.1.wellFormed hrow']
        rfl
      · refine hother _ (fun he => hne ?_) (hr.links m hm hne)
        rw [ovnName_inj hm hn he, hzero]
      · by_cases hv : v = row.uuid
        · by_cases hx' : x = ovnName n
          · exact .inr ⟨hv, fun r lr w h₁ h₂ h₃ => hx' ▸ hno r lr w h₁ h₂ h₃⟩
          · exact .inl (hv ▸ hother x hx' (hv ▸ hx))
        · exact .inl (hx.unlink_other hv _)
    obtain ⟨nb', ha, h'⟩ := hgone
    refine Prog.Ends.retry rfl (commitsOnce_computed (hcommands _ hcs) (by simp) ?_) (hQ nb' h')
    rw [Prog.transact_cons, ha]
    rfl
  · obtain ⟨cs, refs, nb₁, hcs, hc, hlinks⟩ := hr.leave h.1.wellFormed h.1.distinct hrow' hn hls
      hassoc hupdate hsync hzero
    refine Prog.Ends.retry rfl (commitsOnce_computed (hcommands cs hcs) hc.ne_nil hc.done)
      (hQ _ (h.counts hrow' hc fun v x hx => ?_))
    by_cases he : v = row.uuid ∧ x = ovnName n
    · rcases hkeep with ⟨k, hk, hget⟩ | hno
      · rw [hcount, if_neg hzero, Option.some.injEq] at hget
        exact .inl (hlinks v x hx fun _ _ => by omega)
      · obtain ⟨rfl, rfl⟩ := he
        exact .inr ⟨rfl, hno⟩
    · exact .inl (hlinks v x hx fun hv hx => absurd ⟨hv, hx⟩ he)

end Switches

end OvnOctavia
