import OvnOctavia.Links
import OvnOctavia.ProtocolRows

/-!
What the removal of a router's interface on a network does to a load balancer of
another network of the router. The load balancer keeps its links exactly when it is
not among those the handler takes for created on the network of the interface: it is
not linked there, or its counted networks do not name it.
-/

namespace OvnOctavia

/-- The names of the routers a row refers to. -/
def lrRefs (externalIds : Dict Str Str) : List Str :=
  match externalIds.get? lbExtIdsLrRefKey with
  | some (c :: ref) => ((c :: ref).splitOn ',').map strip
  | _ => []

section Commands
variable {env : Env} {lb : LoadBalancer} {lr : LogicalRouter} {r v : Nat} {s s' : Nb}

/-- The router is not linked to the row. -/
def Nb.Unlinked (r v : Nat) (s : Nb) : Prop := ∀ lr, s.router? r = some lr → v ∉ lr.loadBalancer

theorem Nb.router?_updateRouter (s : Nb) (n r : Nat) {f : LogicalRouter → LogicalRouter}
    (hf : ∀ lr, (f lr).uuid = lr.uuid) :
    (s.updateRouter n f).router? r =
      (s.router? r).map fun lr => if lr.uuid = n then f lr else lr := by
  have huuid : ∀ lr : LogicalRouter, (if lr.uuid = n then f lr else lr).uuid = lr.uuid := by
    intro lr
    split
    · exact hf lr
    · rfl
  simp only [Nb.router?, Nb.updateRouter, List.find?_map]
  congr 2
  funext lr
  simp [huuid]

/-- Only `lr_lb_add` links a router to a row. -/
theorem Nb.Unlinked.apply {c : Command} (h : s.Unlinked r v) (hc : ∀ n u, c ≠ .lrLbAdd n u)
    (ha : Nb.apply c s = .ok s') : s'.Unlinked r v := by
  cases c with
  | lrLbAdd n u => exact absurd rfl (hc n u)
  | lrLbDel n u ifExists =>
      simp only [Nb.apply] at ha
      split at ha
      · split at ha
        · cases ha
          intro lr hlr
          rw [router?_updateRouter] at hlr
          · obtain ⟨old, hold, rfl⟩ := Option.map_eq_some_iff.mp hlr
            have := h old hold
            split
            · exact fun hm => this (List.mem_of_mem_filter hm)
            · exact this
          · exact fun _ => rfl
        · cases ha
      · cases ha
  | lbCreate | portDelete =>
      cases ha
      exact h
  | lbDel u =>
      simp only [Nb.apply] at ha
      split at ha <;> cases ha
      intro lr hlr
      simp only [router?, deleteLb, collectHealthChecks, List.find?_map] at hlr
      obtain ⟨old, hold, rfl⟩ := Option.map_eq_some_iff.mp hlr
      exact fun hm => h old hold (List.mem_of_mem_filter hm)
  | lsLbDel ref u ifExists =>
      simp only [Nb.apply] at ha
      split at ha
      · split at ha
        · cases ha
          exact h
        · cases ha
      · cases ha
  | lbUpdate | hcCreate | hcUpdate | hcDestroy | natClearExternalMac | natClearLogicalPort
  | lsLbAdd =>
      simp only [Nb.apply] at ha
      split at ha <;> cases ha
      exact h

theorem Nb.unlinked_of_lrLbDel (ha : Nb.apply (.lrLbDel r v true) s = .ok s') :
    s'.Unlinked r v := by
  simp only [Nb.apply] at ha
  split at ha
  · split at ha
    · cases ha
      intro lr' hlr'
      rw [router?_updateRouter] at hlr'
      · obtain ⟨old, hold, rfl⟩ := Option.map_eq_some_iff.mp hlr'
        have hu : old.uuid = r := by simpa using List.find?_some hold
        simp [hu]
      · exact fun _ => rfl
    · cases ha
  · cases ha

/-- The command fails only for what is missing. -/
def Command.Lenient : Command → Prop
  | lsLbDel _ _ ifExists | lrLbDel _ _ ifExists => ifExists = true
  | _ => True

theorem Command.Lenient.error {c : Command} (hc : c.Lenient) {e : Exc}
    (ha : Nb.apply c s = .error e) : e = .rowNotFound := by
  cases c with
  | lsLbDel ref u ifExists | lrLbDel r u ifExists =>
      cases hc
      simp only [Nb.apply] at ha
      split at ha
      · rw [if_pos (.inr trivial)] at ha
        cases ha
      · cases ha
        rfl
  | lbCreate | portDelete => cases ha
  | _ =>
      simp only [Nb.apply] at ha
      split at ha <;> cases ha
      rfl

theorem transact_error {cs : List Command} (hcs : ∀ c ∈ cs, c.Lenient) {e : Exc}
    (h : Prog.transact Nb.apply cs s = .error e) : e = .rowNotFound := by
  induction cs generalizing s with
  | nil => cases h
  | cons c cs ih =>
      rw [Prog.transact_cons] at h
      cases ha : Nb.apply c s with
      | error e' =>
          rw [ha] at h
          cases h
          exact (hcs c (List.mem_cons_self ..)).error ha
      | ok s₁ =>
          rw [ha] at h
          exact ih (fun d hd => hcs d (List.mem_cons_of_mem _ hd)) h

theorem transact_unlinked {cs : List Command} (hcs : ∀ c ∈ cs, ∀ n u, c ≠ .lrLbAdd n u)
    (hmem : s.Unlinked r v ∨ .lrLbDel r v true ∈ cs)
    (h : Prog.transact Nb.apply cs s = .ok s') : s'.Unlinked r v := by
  induction cs generalizing s with
  | nil =>
      cases h
      exact hmem.elim id nofun
  | cons c cs ih =>
      rw [Prog.transact_cons] at h
      cases ha : Nb.apply c s with
      | error e =>
          rw [ha] at h
          cases h
      | ok s₁ =>
          rw [ha] at h
          refine ih (fun d hd => hcs d (List.mem_cons_of_mem _ hd)) ?_ h
          rcases hmem with hun | hmem
          · exact .inl (hun.apply (hcs c (List.mem_cons_self ..)) ha)
          · rcases List.mem_cons.mp hmem with rfl | hmem
            · exact .inl (Nb.unlinked_of_lrLbDel ha)
            · exact .inr hmem

end Commands

section Topology
variable {env : Env} {nb s : Nb}

theorem Nb.SameTopology.router? (h : nb.SameTopology s) {r : Nat} {lr : LogicalRouter}
    (hlr : nb.router? r = some lr) : ∃ lr', s.router? r = some lr' ∧ lr'.bare = lr.bare := by
  have hfind : ∀ nb : Nb, (nb.router? r).map LogicalRouter.bare =
      (nb.routers.map LogicalRouter.bare).find? (·.uuid = r) := by
    intro nb
    rw [List.find?_map]
    rfl
  have hmap := hfind s
  rw [h.routers, ← hfind nb, hlr, Option.map_some, Option.map_eq_some_iff] at hmap
  exact hmap

/-- The ports of a router have addresses. -/
def LogicalRouter.Addressed (env : Env) (lr : LogicalRouter) : Prop :=
  ∀ port ∈ lr.ports, port.gatewayChassis = false →
    ∃ network rest, port.networks = network :: rest ∧ (env.ipVersion network).isSome

theorem findLsForLr_ok {lr : LogicalRouter} (h : lr.Addressed env) (ver : IpVersion) :
    ∃ nets, findLsForLr env lr ver = .ok nets := by
  refine Except.foldlM_ok (fun port hp ls => ?_) []
  cases hg : port.gatewayChassis with
  | true => exact ⟨ls, rfl⟩
  | false =>
      obtain ⟨network, rest, hnet, hver⟩ := h port hp hg
      obtain ⟨v, hv⟩ := Option.isSome_iff_exists.mp hver
      have hv : env.version network = .ok v := env.version_eq_ok_iff.mpr hv
      simp only [hnet, hv, Bind.bind, Except.bind, Bool.false_eq_true, if_false]
      split
      · exact ⟨_, rfl⟩
      · split
        · exact ⟨_, rfl⟩
        · exact ⟨_, rfl⟩

end Topology

section Detaching
variable {env : Env} {nb s : Nb} {lb row : LoadBalancer} {router lr : LogicalRouter} {v : Nat}

/-- What `lb_delete_lrp_assoc` does with a load balancer it takes for created on the
network. -/
def detachLr (env : Env) (lb : LoadBalancer) (router : LogicalRouter) : Nbctl Unit :=
  (updateLbToLrAssociation env lb router true false).tryCatch fun e =>
    if e = .rowNotFound then updateLbToLrAssociationByStep env lb router true false else throw e

/-- The commands of a detachment. -/
structure DetachCommands (lb : LoadBalancer) (lr : LogicalRouter) (cs : List Command) : Prop where
  lenient : ∀ c ∈ cs, c.Lenient
  noLink : ∀ c ∈ cs, ∀ n u, c ≠ .lrLbAdd n u
  unlink : lrRefs lb.externalIds ≠ [] → .lrLbDel lr.uuid lb.uuid true ∈ cs
  step : ∀ c ∈ cs, c.isLsLb = true ∨ (∃ op, c = .lbUpdate lb.uuid op) ∨
    c = .lrLbDel lr.uuid lb.uuid true

theorem delLbToLrAssociation_ok {vip : Str} (hvip : lb.externalIds.get? lbExtIdsVipKey = some vip)
    (hver : (env.ipVersion vip).isSome) (hlr : lr.Addressed env) :
    ∃ cs, delLbToLrAssociation env lb lr (lb.externalIds.get? lbExtIdsLrRefKey) = .ok cs ∧
      DetachCommands lb lr cs := by
  obtain ⟨ver, hver⟩ := Option.isSome_iff_exists.mp hver
  obtain ⟨nets, hnets⟩ := findLsForLr_ok hlr ver
  have hv : vipVersion env lb = .ok ver := by
    simp [vipVersion, hvip, hver]
  unfold delLbToLrAssociation
  simp only [hv, hnets, Bind.bind, Except.bind]
  have hrefs : ∀ c ∈ (match lb.externalIds.get? lbExtIdsLrRefKey with
      | some (c :: ref) =>
          let refs := (((c :: ref).splitOn ',').map strip).filter (· ≠ lr.name)
          [if refs ≠ [] then
              .lbUpdate lb.uuid (.setExternalIds (.single lbExtIdsLrRefKey (Str.join ',' refs)))
            else .lbUpdate lb.uuid (.removeExternalId lbExtIdsLrRefKey),
            .lrLbDel lr.uuid lb.uuid true]
      | _ => [] : List Command),
      (∃ op, c = .lbUpdate lb.uuid op) ∨ c = .lrLbDel lr.uuid lb.uuid true := by
    intro c hc
    split at hc
    · rcases List.mem_cons.mp hc with rfl | hc
      · split
        · exact .inl ⟨_, rfl⟩
        · exact .inl ⟨_, rfl⟩
      · exact .inr (List.mem_singleton.mp hc)
    · cases hc
  refine ⟨_, rfl, fun c hc => ?_, fun c hc n u => ?_, fun hne => ?_, fun c hc => ?_⟩
  · rcases List.mem_append.mp hc with hc | hc
    · obtain ⟨op, rfl⟩ | rfl := hrefs c hc
      · trivial
      · rfl
    · obtain ⟨net, -, rfl⟩ := List.mem_map.mp hc
      rfl
  · rcases List.mem_append.mp hc with hc | hc
    · obtain ⟨op, rfl⟩ | rfl := hrefs c hc
      · exact nofun
      · exact nofun
    · obtain ⟨net, -, rfl⟩ := List.mem_map.mp hc
      exact nofun
  · refine List.mem_append_left _ ?_
    rcases hr : lb.externalIds.get? lbExtIdsLrRefKey with _ | _ | ⟨c, ref⟩
    · simp [lrRefs, hr] at hne
    · simp [lrRefs, hr] at hne
    · exact List.mem_cons_of_mem _ (List.mem_singleton_self _)
  · rcases List.mem_append.mp hc with hc | hc
    · exact .inr (hrefs c hc)
    · obtain ⟨net, -, rfl⟩ := List.mem_map.mp hc
      exact .inl rfl

/-- The state of a detachment: the rows and ports are those of `nb`. -/
structure DetachState (env : Env) (nb s : Nb) (router : LogicalRouter) : Prop where
  objects : nb.SameObjects s
  topology : nb.SameTopology s
  found : nb.router? router.uuid = some router
  addressed : LogicalRouter.Addressed env router

/-- The row has a VIP with an address. -/
def LoadBalancer.HasVip (env : Env) (lb : LoadBalancer) : Prop :=
  ∃ vip, lb.externalIds.get? lbExtIdsVipKey = some vip ∧ (env.ipVersion vip).isSome

theorem DetachState.commands (hs : DetachState env nb s router)
    (hlb : nb.lb? lb.uuid = some lb) (hvip : lb.HasVip env) :
    ∃ row cs, s.lb? lb.uuid = some row ∧ row.uuid = lb.uuid ∧
      getLbToLrAssociationCommands env s lb router true false = .ok cs ∧
      DetachCommands row router cs := by
  obtain ⟨row, hrow, hsame⟩ := hs.objects.lb? hlb
  obtain ⟨lr, hlr, hbare⟩ := hs.topology.router? hs.found
  obtain ⟨vip, hvip, hver⟩ := hvip
  have hvip' : row.externalIds.get? lbExtIdsVipKey = some vip := by
    rw [hsame.externalIds.get? lbExtIdsVipKey (by decide), hvip]
  have hports : lr.bare.ports = router.bare.ports := congrArg LogicalRouter.ports hbare
  have huuid : lr.bare.uuid = router.bare.uuid := congrArg LogicalRouter.uuid hbare
  simp only [LogicalRouter.bare] at hports huuid
  have haddr : lr.Addressed env := by
    unfold LogicalRouter.Addressed
    rw [hports]
    exact hs.addressed
  obtain ⟨cs, hcs, hd⟩ := delLbToLrAssociation_ok hvip' hver haddr
  refine ⟨row, cs, hrow, hsame.uuid, ?_, ⟨hd.lenient, hd.noLink, ?_, ?_⟩⟩
  · simp only [getLbToLrAssociationCommands, LoadBalancer.live, hrow, hlr, Option.getD_some,
      if_true]
    exact hcs
  · exact huuid ▸ hd.unlink
  · exact huuid ▸ hd.step

theorem DetachState.run {α : Type} {p : Nbctl α} {u : Nat} (hs : DetachState env nb s router)
    (hp : PeripheralOn u p) : DetachState env nb (p.run Nb.apply s).2 router :=
  ⟨hs.objects.trans (hp.sameObjects s), hs.topology.trans (sameTopology_run p s), hs.found,
    hs.addressed⟩

/-- A command of a detachment, tried on its own. -/
def detachStep (c : Command) : Nbctl Unit :=
  (Prog.transaction [c]).tryCatch fun e =>
    if e = .rowNotFound ∧ c.isLsLb then pure () else throw e

theorem run_detachStep (hs : DetachState env nb s router) {u : Nat} (hu : (nb.lb? u).isSome)
    {c : Command} (hc : c.Lenient)
    (hstep : c.isLsLb = true ∨ (∃ op, c = .lbUpdate u op) ∨ c = .lrLbDel router.uuid u true) :
    (detachStep c).run Nb.apply s = (.ok (), ((detachStep c).run Nb.apply s).2) ∧
      (Nb.apply c s = .ok ((detachStep c).run Nb.apply s).2 ∨
        ((detachStep c).run Nb.apply s).2 = s ∧ c.isLsLb = true) := by
  have hok : ∀ s', Nb.apply c s = .ok s' →
      (Prog.transaction [c] : Nbctl Unit).run Nb.apply s = (.ok (), s') := by
    intro s' ha
    rw [Prog.run_transaction, Prog.transact_cons, ha]
    rfl
  have herror : ∀ e, Nb.apply c s = .error e →
      (Prog.transaction [c] : Nbctl Unit).run Nb.apply s = (.error e, s) := by
    intro e ha
    rw [Prog.run_transaction, Prog.transact_cons, ha]
    rfl
  rw [detachStep, Prog.run_tryCatch]
  cases ha : Nb.apply c s with
  | ok s' =>
      rw [hok s' ha]
      exact ⟨rfl, .inl rfl⟩
  | error e =>
      rw [herror e ha]
      have he := hc.error ha
      subst he
      obtain ⟨row, hrow⟩ := Option.isSome_iff_exists.mp hu
      obtain ⟨row', hrow', -⟩ := hs.objects.lb? hrow
      obtain ⟨lr, hlr, -⟩ := hs.topology.router? hs.found
      rcases hstep with h | ⟨op, rfl⟩ | rfl
      · simp [h]
      · simp [Nb.apply, hrow'] at ha
      · simp [Nb.apply, hlr] at ha

theorem run_each_detachStep {u : Nat} (hu : (nb.lb? u).isSome) {cs : List Command}
    (hlenient : ∀ c ∈ cs, c.Lenient) (hlink : ∀ c ∈ cs, ∀ n u, c ≠ .lrLbAdd n u)
    (hp : ∀ c ∈ cs, c.IsPeripheral ∧ c.Targets u)
    (hstep : ∀ c ∈ cs, c.isLsLb = true ∨ (∃ op, c = .lbUpdate u op) ∨
      c = .lrLbDel router.uuid u true) (hs : DetachState env nb s router) :
    ∃ s', (Prog.each detachStep cs).run Nb.apply s = (.ok (), s') ∧
      (s.Unlinked router.uuid v ∨ v = u ∧ .lrLbDel router.uuid u true ∈ cs →
        s'.Unlinked router.uuid v) := by
  induction cs generalizing s with
  | nil => exact ⟨s, rfl, fun h => h.elim id nofun⟩
  | cons c cs ih =>
      obtain ⟨hrun, hend⟩ := run_detachStep hs hu (hlenient c (List.mem_cons_self ..))
        (hstep c (List.mem_cons_self ..))
      have hs₁ : DetachState env nb ((detachStep c).run Nb.apply s).2 router := by
        refine hs.run (u := u) (.tryCatch (.transaction ?_) fun e => ?_)
        · simpa using hp c (List.mem_cons_self ..)
        · split
          · exact .pure ()
          · exact .throw e
      obtain ⟨s', hrun', hun⟩ := ih (fun d hd => hlenient d (List.mem_cons_of_mem _ hd))
        (fun d hd => hlink d (List.mem_cons_of_mem _ hd))
        (fun d hd => hp d (List.mem_cons_of_mem _ hd))
        (fun d hd => hstep d (List.mem_cons_of_mem _ hd)) hs₁
      refine ⟨s', ?_, fun h => hun ?_⟩
      · change ((detachStep c) >>= fun _ => Prog.each detachStep cs).run Nb.apply s = _
        rw [Prog.run_bind, hrun]
        exact hrun'
      · rcases hend with ha | ⟨heq, hls⟩
        · rcases h with h | ⟨rfl, hmem⟩
          · exact .inl (h.apply (hlink c (List.mem_cons_self ..)) ha)
          · rcases List.mem_cons.mp hmem with rfl | hmem
            · exact .inl (Nb.unlinked_of_lrLbDel ha)
            · exact .inr ⟨rfl, hmem⟩
        · rcases h with h | ⟨rfl, hmem⟩
          · exact .inl (by rwa [heq])
          · rcases List.mem_cons.mp hmem with rfl | hmem
            · cases hls
            · exact .inr ⟨rfl, hmem⟩

theorem peripheral_detachLr (env : Env) (lb : LoadBalancer) (router : LogicalRouter) :
    PeripheralOn lb.uuid (detachLr env lb router) := by
  refine .tryCatch (peripheral_updateLbToLrAssociation env lb router true false) fun e => ?_
  split
  · exact peripheral_updateLbToLrAssociationByStep env lb router true false
  · exact .throw e

/-- A detachment goes through, and unlinks the router when the row refers to routers. -/
theorem run_detachLr (hs : DetachState env nb s router) (hlb : nb.lb? lb.uuid = some lb)
    (hvip : lb.HasVip env) :
    ∃ s', (detachLr env lb router).run Nb.apply s = (.ok (), s') ∧ DetachState env nb s' router ∧
      (s.Unlinked router.uuid v ∨
        v = lb.uuid ∧ (∀ row, s.lb? lb.uuid = some row → lrRefs row.externalIds ≠ []) →
        s'.Unlinked router.uuid v) := by
  obtain ⟨row, cs, hrow, hu, hcs, hd⟩ := hs.commands hlb hvip
  have hbody : (do
      let nb ← Prog.get
      let commands ← Prog.ofExcept (getLbToLrAssociationCommands env nb lb router true false)
      executeCommands commands : Nbctl Unit).run Nb.apply s =
        (executeCommands cs).run Nb.apply s := by
    simp only [Prog.run_bind, Prog.run_get, Prog.run_ofExcept, hcs]
  have hupdate : (updateLbToLrAssociation env lb router true false).run Nb.apply s =
      (executeCommands cs).run Nb.apply s := by
    rw [← hbody, updateLbToLrAssociation]
    refine Prog.run_retry Nb.apply (fun e he => ?_) 2
    rw [hbody, run_executeCommands] at he ⊢
    cases ht : Prog.transact Nb.apply cs s with
    | ok s' =>
        rw [ht] at he
        cases he
    | error e => rfl
  have hstate := hs.run (peripheral_detachLr env lb router)
  have hmem : v = lb.uuid ∧ (∀ row, s.lb? lb.uuid = some row → lrRefs row.externalIds ≠ []) →
      v = row.uuid ∧ .lrLbDel router.uuid row.uuid true ∈ cs := by
    rintro ⟨hv, href⟩
    exact ⟨hv.trans hu.symm, hd.unlink (href row hrow)⟩
  rw [detachLr, Prog.run_tryCatch, hupdate, run_executeCommands] at hstate ⊢
  cases ht : Prog.transact Nb.apply cs s with
  | ok s' =>
      rw [ht] at hstate
      refine ⟨s', rfl, hstate, fun h => ?_⟩
      refine transact_unlinked hd.noLink (h.imp_right fun h => ?_) ht
      obtain ⟨rfl, hm⟩ := hmem h
      exact hm
  | error e =>
      have he := transact_error hd.lenient ht
      subst he
      rw [ht] at hstate
      have hp : ∀ c ∈ cs, c.IsPeripheral ∧ c.Targets lb.uuid := fun c hc =>
            (associates_getLbToLrAssociationCommands hcs c hc).isPeripheral
      have hstep : (updateLbToLrAssociationByStep env lb router true false).run Nb.apply s =
          (Prog.each detachStep cs).run Nb.apply s := by
        simp only [updateLbToLrAssociationByStep, Prog.run_bind, Prog.run_get,
          Prog.run_ofExcept, hcs]
        rfl
      obtain ⟨s', hrun, hun⟩ :=
        run_each_detachStep (v := v) (by rw [hu, hlb]; rfl) hd.lenient hd.noLink
        (hu ▸ hp) hd.step hs
      simp only [if_true, hstep, hrun] at hstate ⊢
      exact ⟨s', rfl, hstate, fun h => hun (h.imp_right hmem)⟩

end Detaching

section Removal
variable {env : Env} {nb s : Nb} {lb row : LoadBalancer} {router : LogicalRouter}
  {network vipLs : LogicalSwitch} {v : Nat}

theorem Nb.Unlinked.sameAt {s' : Nb} {r : Nat} (h : s.Unlinked r v) (hs : s.SameAt v s') :
    s'.Unlinked r v := by
  have hfind : ∀ s : Nb, (s.router? r).map (LogicalRouter.seenBy v) =
      (s.routers.map (LogicalRouter.seenBy v)).find? (·.uuid = r) := by
    intro s
    rw [List.find?_map]
    rfl
  intro lr hlr
  have hmap := hfind s'
  rw [hs.routers, ← hfind s, hlr, Option.map_some, eq_comm, Option.map_eq_some_iff] at hmap
  obtain ⟨old, hold, heq⟩ := hmap
  have hl := congrArg LogicalRouter.loadBalancer heq
  simp only [LogicalRouter.seenBy] at hl
  exact fun hm => h old hold ((mem_iff_of_filter hl).mpr hm)

theorem run_each_detachLr {lbs : List LoadBalancer} (hs : DetachState env nb s router)
    (hlbs : ∀ lb ∈ lbs, nb.lb? lb.uuid = some lb ∧ lb.HasVip env) :
    ∃ s', (Prog.each (detachLr env · router) lbs).run Nb.apply s = (.ok (), s') ∧
      (s.Unlinked router.uuid v ∨ (∃ lb ∈ lbs, lb.uuid = v) ∧
        (∀ row, s.lb? v = some row → lrRefs row.externalIds ≠ []) →
        s'.Unlinked router.uuid v) := by
  induction lbs generalizing s with
  | nil =>
      refine ⟨s, rfl, ?_⟩
      rintro (h | ⟨⟨lb, hm, -⟩, -⟩)
      · exact h
      · cases hm
  | cons lb lbs ih =>
      obtain ⟨hlb, hvip⟩ := hlbs lb (List.mem_cons_self ..)
      obtain ⟨s₁, hrun, hs₁, hun⟩ := run_detachLr (v := v) hs hlb hvip
      obtain ⟨s', hrun', hun'⟩ := ih hs₁ fun x hx => hlbs x (List.mem_cons_of_mem _ hx)
      refine ⟨s', ?_, fun h => hun' ?_⟩
      · change (detachLr env lb router >>= fun _ => Prog.each (detachLr env · router) lbs).run
          Nb.apply s = _
        rw [Prog.run_bind, hrun]
        exact hrun'
      · rcases h with h | ⟨⟨x, hx, hxv⟩, href⟩
        · exact .inl (hun (.inl h))
        · by_cases hv : lb.uuid = v
          · exact .inl (hun (.inr ⟨hv.symm, hv ▸ href⟩))
          · have hat := (peripheral_detachLr env lb router).sameAt hv s
            rw [hrun] at hat
            rcases List.mem_cons.mp hx with rfl | hx
            · exact absurd hxv hv
            · exact .inr ⟨⟨x, hx, hxv⟩, fun row hrow => href row (hat.row ▸ hrow)⟩

/-- The handler's association of a load balancer that leaves the network only. -/
def leaveLs (network : LogicalSwitch) : LsAssociation :=
  { networkId := some (ovnUuid network.name), associate := false, updateLsRef := false }

/-- An interface of the router on the network is gone: the rows are current, the ports
have addresses, and the load balancers with counted networks have a VIP. -/
structure InterfaceGone (env : Env) (nb : Nb) (network : LogicalSwitch) (router : LogicalRouter) :
    Prop where
  switch : nb.switch? (.uuid network.uuid) = some network
  named : nb.switch? (.name network.name) = some network
  name : ∃ id, IsUuid id ∧ network.name = ovnName id
  unique : ∀ ls ∈ nb.switches, ls.uuid = network.uuid → ls = network
  found : nb.router? router.uuid = some router
  addressed : LogicalRouter.Addressed env router
  vips : ∀ lb ∈ nb.loadBalancers, (lb.externalIds.get? lbExtIdsLsRefsKey).isSome → lb.HasVip env

theorem lbDeleteLrpAssoc_run (hi : InterfaceGone env nb network router) :
    (lbDeleteLrpAssoc env network router).run Nb.apply nb =
      ((Prog.each (detachLr env · router) ((findLbInLs nb network).filterMap nb.lb?)) >>= fun _ =>
        Prog.each (fun lb =>
          (updateLbToLsAssociation env lb (leaveLs network)).tryCatch fun e =>
            if e = .rowNotFound then pure () else throw e)
          ((router.loadBalancer.filter (· ∉ findLbInLs nb network)).filterMap nb.lb?)).run
        Nb.apply nb := by
  rw [lbDeleteLrpAssoc, Prog.run_bind, Prog.run_get]
  simp only [hi.switch, hi.found, Option.getD_some]
  rfl

theorem InterfaceGone.detachState (hi : InterfaceGone env nb network router) :
    DetachState env nb nb router :=
  ⟨.refl nb, .refl nb, hi.found, hi.addressed⟩

/-- A load balancer taken for created on the network loses the router. -/
theorem unlinked_lbDeleteLrpAssoc (hi : InterfaceGone env nb network router)
    (hrow : nb.lb? row.uuid = some row) (href : lrRefs row.externalIds ≠ [])
    (hv : row.uuid ∈ findLbInLs nb network) :
    ((lbDeleteLrpAssoc env network router).run Nb.apply nb).2.Unlinked router.uuid row.uuid := by
  have hlbs : ∀ lb ∈ (findLbInLs nb network).filterMap nb.lb?,
      nb.lb? lb.uuid = some lb ∧ lb.HasVip env := by
    intro lb hm
    obtain ⟨u, hu, hlb⟩ := List.mem_filterMap.mp hm
    obtain ⟨hmem, rfl⟩ := Nb.lb?_eq_some hlb
    have hcounts := (List.mem_filter.mp hu).2
    rw [hlb, Option.any_some] at hcounts
    refine ⟨hlb, hi.vips lb hmem ?_⟩
    cases h : lb.externalIds.get? lbExtIdsLsRefsKey with
    | none => simp [h] at hcounts
    | some _ => rfl
  obtain ⟨s₁, hrun, hun⟩ := run_each_detachLr (v := row.uuid) hi.detachState hlbs
  have hs₁ := hun (.inr ⟨⟨row, List.mem_filterMap.mpr ⟨row.uuid, hv, hrow⟩, rfl⟩, fun row' h => by
    rw [hrow] at h
    cases h
    exact href⟩)
  rw [lbDeleteLrpAssoc_run hi, Prog.run_bind, hrun]
  have hleave : ∀ lb ∈ (router.loadBalancer.filter (· ∉ findLbInLs nb network)).filterMap nb.lb?,
      lb.uuid ≠ row.uuid := by
    intro lb hm he
    obtain ⟨u, hu, hlb⟩ := List.mem_filterMap.mp hm
    have hne := (List.mem_filter.mp hu).2
    rw [(Nb.lb?_eq_some hlb).2.symm, he] at hne
    simp [hv] at hne
  have hkeep : (Prog.each (fun lb =>
      (updateLbToLsAssociation env lb (leaveLs network)).tryCatch fun e =>
        if e = .rowNotFound then pure () else throw e)
      ((router.loadBalancer.filter (· ∉ findLbInLs nb network)).filterMap nb.lb?)).Keeps Nb.apply
      (s₁.SameAt row.uuid) fun _ => True := by
    refine .each fun lb hm => ?_
    have hp : PeripheralOn lb.uuid
      ((updateLbToLsAssociation env lb (leaveLs network)).tryCatch fun e =>
        if e = .rowNotFound then pure () else throw e) := by
      refine .tryCatch (peripheral_updateLbToLsAssociation env lb _) fun e => ?_
      split
      · exact .pure ()
      · exact .throw e
    exact .of_uses hp fun _ _ _ hc hs ha =>
      hs.trans (Command.sameAt hc.1 hc.2 (hleave lb hm) ha)
  exact hs₁.sameAt (hkeep s₁ (.refl _ _)).1

/-- A switch with the links to one row, or with none if it is the one left. -/
def LogicalSwitch.without (n v : Nat) (ls : LogicalSwitch) : LogicalSwitch :=
  if ls.uuid = n then ls.bare else ls.seenBy v

/-- The row and its links are those of `nb`, but for the links of one switch. -/
structure LinksWithout (n v : Nat) (nb s : Nb) : Prop where
  row : s.lb? v = nb.lb? v
  switches : s.switches.map (LogicalSwitch.without n v) =
    nb.switches.map (LogicalSwitch.without n v)
  routers : s.routers.map (LogicalRouter.seenBy v) = nb.routers.map (LogicalRouter.seenBy v)

theorem LinksWithout.sameAt {n : Nat} {s' : Nb} (h : LinksWithout n v nb s) (hs : s.SameAt v s') :
    LinksWithout n v nb s' := by
  have hmap : ∀ l : List LogicalSwitch, l.map (LogicalSwitch.without n v) =
      (l.map (LogicalSwitch.seenBy v)).map (LogicalSwitch.without n v) := by
    intro l
    rw [List.map_map]
    refine List.map_congr_left fun ls _ => ?_
    by_cases hn : ls.uuid = n
    · simp [LogicalSwitch.without, LogicalSwitch.seenBy, LogicalSwitch.bare, hn]
    · simp [LogicalSwitch.without, LogicalSwitch.seenBy, hn]
  refine ⟨hs.row.trans h.row, ?_, hs.routers.trans h.routers⟩
  rw [hmap, hs.switches, ← hmap, h.switches]

theorem LinksWithout.lsLbDel {s' : Nb} {ls : LogicalSwitch} (h : LinksWithout ls.uuid v nb s)
    (ha : Nb.apply (.lsLbDel (.uuid ls.uuid) v true) s = .ok s') :
    LinksWithout ls.uuid v nb s' := by
  simp only [Nb.apply] at ha
  split at ha
  · next found hfound =>
      have hu : found.uuid = ls.uuid := by simpa using List.find?_some hfound
      rw [if_pos (.inr trivial)] at ha
      cases ha
      refine ⟨h.row, ?_, h.routers⟩
      rw [← h.switches]
      refine map_updateSwitch s _ fun x hx => ?_
      simp [LogicalSwitch.without, hx, hu, LogicalSwitch.bare]
  · cases ha

/-- The switch found by the name of the network is that of the network. -/
theorem LinksWithout.found {n : Nat} (h : LinksWithout n v nb s) (name : Str) :
    (s.switch? (.name name)).map LogicalSwitch.uuid =
      (nb.switch? (.name name)).map LogicalSwitch.uuid := by
  have hfind : ∀ s : Nb, (s.switch? (.name name)).map LogicalSwitch.uuid =
      ((s.switches.map (LogicalSwitch.without n v)).find? (·.name = name)).map
        LogicalSwitch.uuid := by
    intro s
    have hname : ∀ ls : LogicalSwitch, (ls.without n v).name = ls.name ∧
        (ls.without n v).uuid = ls.uuid := by
      intro ls
      unfold LogicalSwitch.without
      split
      · exact ⟨rfl, rfl⟩
      · exact ⟨rfl, rfl⟩
    rw [List.find?_map, Option.map_map]
    simp only [Nb.switch?, Function.comp_def, hname]
  rw [hfind s, h.switches, ← hfind nb]

/-- The load balancer leaves the switch of the network at most. -/
theorem leaveLs_keeps (hi : InterfaceGone env nb network router) (hlb : lb.uuid = v) :
    (updateLbToLsAssociation env lb (leaveLs network)).Keeps Nb.apply
      (LinksWithout network.uuid v nb) fun _ => True := by
  refine .retry ?_ 2
  refine .bind .get fun s hs => .bind (R := fun cs : List Command => ∀ c ∈ cs,
    c = .lsLbDel (.uuid network.uuid) v true) (.ofExcept fun cs hcs => ?_) fun cs hcs => ?_
  · obtain ⟨id, hid, hname⟩ := hi.name
    obtain ⟨c, t, hct⟩ := List.exists_cons_of_ne_nil hid.ne_nil
    have hls : lsNameOf env (leaveLs network) = .ok (some (some network.name)) := by
      have hn : ovnUuid network.name = c :: t := by rw [hname, ovnUuid_ovnName hid, hct]
      simp only [lsNameOf, leaveLs, hn]
      rw [← hct, hname]
    simp only [getLbToLsAssociationCommands, hls, Bind.bind, Except.bind] at hcs
    have hu : (lb.live s).uuid = v := (lb.uuid_live s).trans hlb
    have hfound := hs.found network.name
    rw [hi.named] at hfound
    obtain ⟨ls, hls, hlsu⟩ := Option.map_eq_some_iff.mp hfound
    simp only [hls, lsCommands, leaveLs, updateLsRefs, hu, hlsu, Option.bind] at hcs
    -- without the counts to write, every branch commits the removal or nothing
    intro c hc
    simp only [Bool.false_and, Bool.not_false, if_true, Bool.false_eq_true, if_false] at hcs
    split at hcs
    · cases hcs
      exact List.mem_singleton.mp hc
    · split at hcs
      · cases hcs
        exact List.mem_singleton.mp hc
      · cases hcs
        cases hc
  · refine .of_uses (uses_executeCommands (C := (· = .lsLbDel (.uuid network.uuid) v true)) hcs)
      fun c s s' hc hs ha => ?_
    subst hc
    exact hs.lsLbDel ha

/-- A load balancer not taken for created on the network keeps all but that network. -/
theorem linksWithout_lbDeleteLrpAssoc (hi : InterfaceGone env nb network router)
    (hv : v ∉ findLbInLs nb network) :
    LinksWithout network.uuid v nb ((lbDeleteLrpAssoc env network router).run Nb.apply nb).2 := by
  rw [lbDeleteLrpAssoc_run hi]
  have hdetach : (Prog.each (detachLr env · router)
    ((findLbInLs nb network).filterMap nb.lb?)).Keeps
      Nb.apply (LinksWithout network.uuid v nb) fun _ => True := by
    refine .each fun lb hm => ?_
    obtain ⟨u, hu, hlb⟩ := List.mem_filterMap.mp hm
    have hne : lb.uuid ≠ v := by
      rw [(Nb.lb?_eq_some hlb).2]
      exact fun he => hv (he ▸ hu)
    exact .of_uses (peripheral_detachLr env lb router) fun _ _ _ hc hs ha =>
      hs.sameAt (Command.sameAt hc.1 hc.2 hne ha)
  have hleave : ∀ lb : LoadBalancer, ((updateLbToLsAssociation env lb (leaveLs network)).tryCatch
      fun e => if e = .rowNotFound then pure () else throw e).Keeps Nb.apply
      (LinksWithout network.uuid v nb) fun _ => True := by
    intro lb
    refine .tryCatch ?_ fun e => ?_
    · by_cases hlb : lb.uuid = v
      · exact leaveLs_keeps hi hlb
      · exact .of_uses (peripheral_updateLbToLsAssociation env lb _) fun _ _ _ hc hs ha =>
          hs.sameAt (Command.sameAt hc.1 hc.2 hlb ha)
    · split
      · exact .pure trivial
      · exact .throw _
  exact ((hdetach.bind fun _ _ => .each fun lb _ => hleave lb) nb ⟨rfl, rfl, rfl⟩).1

end Removal

section Interfaces

/-- A load balancer whose VIP's network is behind the router, and linked to it: the row is
current, its counts are the provider's own text. -/
structure BehindRouter (env : Env) (nb : Nb) (row : LoadBalancer) (vipLs network : LogicalSwitch)
    (router : LogicalRouter) : Prop where
  current : nb.lb? row.uuid = some row
  other : vipLs.name ≠ network.name
  interface : ∃ vip ver nets, row.externalIds.get? lbExtIdsVipKey = some vip ∧
    env.version vip = .ok ver ∧ findLsForLr env router ver = .ok nets ∧ vipLs.name ∈ nets
  linked : row.uuid ∈ router.loadBalancer
  refers : router.name ∈ lrRefs row.externalIds
  counts : ∀ t, row.externalIds.get? lbExtIdsLsRefsKey = some t → ∃ d, t = Json.dumpsCounts d

/-- The load balancer is still linked to the router, which its row names, and to the
switches of its VIP and of its counted networks that it was linked to. -/
structure StaysLinked (nb nb' : Nb) (row : LoadBalancer) (vipLs : LogicalSwitch)
    (router : LogicalRouter) : Prop where
  linked : ∃ lr, nb'.router? router.uuid = some lr ∧ row.uuid ∈ lr.loadBalancer
  refers : ∃ row', nb'.lb? row.uuid = some row' ∧ router.name ∈ lrRefs row'.externalIds
  switches : ∀ ls ∈ nb.switches,
    (ls.name = vipLs.name ∨ ls.name ∈ (loadLsRefs row.externalIds).keys) →
    row.uuid ∈ ls.loadBalancer →
    ∃ ls' ∈ nb'.switches, ls'.uuid = ls.uuid ∧ row.uuid ∈ ls'.loadBalancer

variable {env : Env} {nb : Nb} {row : LoadBalancer} {vipLs network : LogicalSwitch}
  {router : LogicalRouter}

theorem loadLsRefs_of_counts {e : Dict Str Str}
    (h : ∀ t, e.get? lbExtIdsLsRefsKey = some t → ∃ d, t = Json.dumpsCounts d) {k : Str}
    (hk : k ∈ (loadLsRefs e).keys) :
    ∃ d, e.get? lbExtIdsLsRefsKey = some (Json.dumpsCounts d) ∧ k ∈ d.keys := by
  unfold loadLsRefs at hk
  split at hk
  · next c t ht =>
      obtain ⟨d, hd⟩ := h _ ht
      rw [hd, Json.loadsCounts_dumpsCounts] at hk
      exact ⟨d, hd ▸ ht, hk⟩
  · cases hk

theorem handled_lbDeleteLrpAssoc (env : Env) (nb : Nb) (network : LogicalSwitch)
    (router : LogicalRouter) : handled env (.lbDeleteLrpAssoc network router) nb =
      ((lbDeleteLrpAssoc env network router).run Nb.apply nb).2 := by
  rw [handled, handle, Prog.run_map]

/-- The load balancer stays linked exactly when it is not among those taken for created on
the network of the interface. -/
theorem staysLinked_iff (hi : InterfaceGone env nb network router)
    (hb : BehindRouter env nb row vipLs network router) :
    StaysLinked nb (handled env (.lbDeleteLrpAssoc network router) nb) row vipLs router ↔
      row.uuid ∉ findLbInLs nb network := by
  rw [handled_lbDeleteLrpAssoc]
  constructor
  · intro hstays hv
    have href : lrRefs row.externalIds ≠ [] := List.ne_nil_of_mem hb.refers
    have hun := unlinked_lbDeleteLrpAssoc hi hb.current href hv
    obtain ⟨lr, hlr, hm⟩ := hstays.linked
    exact hun lr hlr hm
  · intro hv
    have hl := linksWithout_lbDeleteLrpAssoc hi hv
    generalize ((lbDeleteLrpAssoc env network router).run Nb.apply nb).2 = nb' at hl
    refine ⟨?_, ⟨row, hl.row.trans hb.current, hb.refers⟩, fun ls hm hname hmem => ?_⟩
    · have hfind : ∀ s : Nb, (s.router? router.uuid).map (LogicalRouter.seenBy row.uuid) =
          (s.routers.map (LogicalRouter.seenBy row.uuid)).find? (·.uuid = router.uuid) := by
        intro s
        rw [List.find?_map]
        rfl
      have hmap := hfind nb'
      rw [hl.routers, ← hfind nb, hi.found, Option.map_some, Option.map_eq_some_iff] at hmap
      obtain ⟨lr, hlr, heq⟩ := hmap
      have hll := congrArg LogicalRouter.loadBalancer heq
      exact ⟨lr, hlr, (mem_iff_of_filter hll).mpr hb.linked⟩
    · have hne : ls.uuid ≠ network.uuid := by
        intro hu
        obtain rfl := hi.unique ls hm hu
        rcases hname with hname | hname
        · exact hb.other hname.symm
        · obtain ⟨d, hd, hk⟩ := loadLsRefs_of_counts hb.counts hname
          obtain ⟨id, hid, hn⟩ := hi.name
          have hin := Json.key_infix_dumpsCounts hk
          rw [hn, escape_ovnName hid, ← hn] at hin
          refine hv (List.mem_filter.mpr ⟨hmem, ?_⟩)
          rw [hb.current, Option.any_some, hd, Option.any_some]
          exact Str.contains_iff.mpr hin
      have hsee : ls.without network.uuid row.uuid ∈
          nb'.switches.map (LogicalSwitch.without network.uuid row.uuid) := by
        rw [hl.switches]
        exact List.mem_map_of_mem hm
      obtain ⟨ls', hm', heq⟩ := List.mem_map.mp hsee
      have huuid : ∀ x : LogicalSwitch, (x.without network.uuid row.uuid).uuid = x.uuid := by
        intro x
        unfold LogicalSwitch.without
        split
        · rfl
        · rfl
      have hu : ls'.uuid = ls.uuid := by
        rw [← huuid ls', heq, huuid]
      rw [LogicalSwitch.without, LogicalSwitch.without, hu, if_neg hne, if_neg hne] at heq
      have hll := congrArg LogicalSwitch.loadBalancer heq
      exact ⟨ls', hm', hu, (mem_iff_of_filter hll).mpr hmem⟩

end Interfaces

section Example

def exampleVipLs : LogicalSwitch :=
  { uuid := 1, name := ovnName (exampleId 'd'), loadBalancer := [4], ports := [] }

def exampleMemberLs : LogicalSwitch :=
  { uuid := 2, name := ovnName (exampleId 'e'), loadBalancer := [4], ports := [] }

/-- A router with an interface on the network of the VIP. -/
def exampleRouter : LogicalRouter :=
  { uuid := 3, name := ovnName (exampleId 'f'), loadBalancer := [4]
    ports := [⟨"lrp".toList, false, ["10.0.0.1/24".toList],
      .single ovnNetworkNameExtIdKey (ovnName (exampleId 'd'))⟩]
    externalIds := ∅ }

/-- The row of a load balancer with one pool of the given members. -/
def exampleLinkedRow (members : Str) (counts : Dict Str Nat) : LoadBalancer :=
  { uuid := 4, name := exampleId 'a', protocol := some .tcp, vips := ∅
    externalIds := (((Dict.single lbExtIdsVipKey "10.0.0.2".toList).set lbExtIdsLrRefKey
      (ovnName (exampleId 'f'))).set lbExtIdsLsRefsKey (Json.dumpsCounts counts)).set
      (getPoolKey (exampleId 'c') true) members
    options := ∅, selectionFields := [], healthCheck := [], ipPortMappings := ∅ }

/-- A load balancer linked to both networks, which counts the given ones. -/
def exampleLinks (members : Str) (counts : Dict Str Nat) : Nb :=
  { exampleNb with
    loadBalancers := [exampleLinkedRow members counts]
    switches := [exampleVipLs, exampleMemberLs]
    routers := [exampleRouter]
    nextUuid := 5 }

def exampleVipCount : Dict Str Nat := .single (ovnName (exampleId 'd')) 1

/-- A member on the network of the interface is counted as well. -/
def exampleMemberCount : Dict Str Nat := exampleVipCount.set (ovnName (exampleId 'e')) 1

def exampleMemberText : Str :=
  memberText (exampleId '0') "10.0.1.5".toList "80".toList (exampleId '1')

theorem interfaceGone_example (members : Str) (counts : Dict Str Nat) :
    InterfaceGone exampleEnv (exampleLinks members counts) exampleMemberLs exampleRouter := by
  refine ⟨rfl, rfl, ⟨exampleId 'e', isUuid_exampleId (by decide), rfl⟩, fun ls hm hu => ?_, rfl,
    fun port hm _ => ?_, fun lb hm _ => ?_⟩
  · rcases List.mem_cons.mp hm with rfl | hm
    · cases hu
    · exact List.mem_singleton.mp hm
  · rw [List.mem_singleton.mp hm]
    exact ⟨_, _, rfl, rfl⟩
  · rw [List.mem_singleton.mp hm]
    exact ⟨"10.0.0.2".toList, rfl, rfl⟩

theorem behindRouter_example (members : Str) (counts : Dict Str Nat) :
    BehindRouter exampleEnv (exampleLinks members counts) (exampleLinkedRow members counts)
      exampleVipLs exampleMemberLs exampleRouter := by
  have href : (exampleLinkedRow members counts).externalIds.get? lbExtIdsLrRefKey =
      some (ovnName (exampleId 'f')) := rfl
  refine ⟨rfl, by decide +kernel, ⟨"10.0.0.2".toList, .v4, [ovnName (exampleId 'd')], rfl, rfl, rfl,
    List.mem_singleton_self _⟩, List.mem_singleton_self _, ?_, fun t ht => ?_⟩
  · unfold lrRefs
    rw [href]
    decide +kernel
  · cases ht
    exact ⟨counts, rfl⟩

/-- Without members on the network of the interface the load balancer stays linked. -/
theorem staysLinked_iff_example : StaysLinked (exampleLinks [] exampleVipCount)
    (handled exampleEnv (.lbDeleteLrpAssoc exampleMemberLs exampleRouter)
      (exampleLinks [] exampleVipCount)) (exampleLinkedRow [] exampleVipCount) exampleVipLs
      exampleRouter :=
  (staysLinked_iff (interfaceGone_example _ _) (behindRouter_example _ _)).mpr (by decide +kernel)

/-- With a member there it loses the router. -/
theorem not_staysLinked_of_member :
    let nb := exampleLinks exampleMemberText exampleMemberCount
    let row := exampleLinkedRow exampleMemberText exampleMemberCount
    InterfaceGone exampleEnv nb exampleMemberLs exampleRouter ∧
      BehindRouter exampleEnv nb row exampleVipLs exampleMemberLs exampleRouter ∧
      ¬ StaysLinked nb (handled exampleEnv (.lbDeleteLrpAssoc exampleMemberLs exampleRouter) nb) row
        exampleVipLs exampleRouter := by
  intro nb row
  have hi : InterfaceGone exampleEnv nb exampleMemberLs exampleRouter := interfaceGone_example _ _
  have hb : BehindRouter exampleEnv nb row exampleVipLs exampleMemberLs exampleRouter :=
    behindRouter_example _ _
  have hv : row.uuid ∈ findLbInLs nb exampleMemberLs := by decide +kernel
  have hun := unlinked_lbDeleteLrpAssoc hi hb.current (List.ne_nil_of_mem hb.refers) hv
  refine ⟨hi, hb, fun h => ?_⟩
  rw [handled_lbDeleteLrpAssoc] at h
  obtain ⟨lr, hlr, hm⟩ := h.linked
  exact hun lr hlr hm

end Example

end OvnOctavia
