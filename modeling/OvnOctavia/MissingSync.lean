import OvnOctavia.Driver
import OvnOctavia.KeptRuns

/-!
The sync of a load balancer that has no rows. The statuses of its listeners and
pools are collected whole, where Octavia is sent texts, so that only a load
balancer without listeners and pools is reported.
-/

namespace OvnOctavia

variable {env : Env}

section Statuses

/-- Whatever a listener or a pool comes to, its status lists objects. -/
theorem listenerCreate_isText {info : ListenerInfo} {status : Status} {nb nb' : Nb}
    (h : (listenerCreate env info).run Nb.apply nb = (.ok status, nb')) :
    status.isText = false := by
  rw [listenerCreate] at h
  cases hup : info.adminStateUp with
  | none =>
      rw [hup] at h
      cases h
  | some up =>
      rw [hup] at h
      obtain ⟨lb, t, -, h⟩ := Prog.run_bind_ok h
      rw [Prog.run_bind, Prog.run_attempt] at h
      rcases hon : (listenerCreateOn env info up lb).run Nb.apply t with ⟨_ | _, t'⟩
      · rw [hon] at h
        cases h
        rfl
      · rw [hon] at h
        obtain ⟨_, t'', -, h⟩ := Prog.run_bind_ok h
        cases h
        rfl

theorem poolCreate_isText {info : PoolInfo} {status : Status} {nb nb' : Nb}
    (h : (poolCreate env info).run Nb.apply nb = (.ok status, nb')) : status.isText = false := by
  rw [poolCreate] at h
  cases hup : info.adminStateUp with
  | none =>
      rw [hup] at h
      cases h
  | some up =>
      rw [hup] at h
      obtain ⟨lb, t, -, h⟩ := Prog.run_bind_ok h
      rw [Prog.run_bind, Prog.run_attempt] at h
      rcases hon : (poolCreateOn info up lb).run Nb.apply t with ⟨_ | _, t'⟩
      · rw [hon] at h
        cases h
        rfl
      · rw [hon] at h
        cases h
        rfl

theorem deleteDisabled_of_listed {s : SyncStatus} {status : Status}
    (hm : status ∈ s.listeners.getD [] ++ s.pools.getD []) (ht : status.isText = false) :
    s.deleteDisabled = .error .typeError := by
  have hnot : (s.listeners.getD [] ++ s.pools.getD [] ++ s.members.getD [] ++
      s.healthmonitors.getD []).all Status.isText = false := by
    rw [List.all_eq_false]
    exact ⟨status, by rw [List.append_assoc]; exact List.mem_append_left _ hm, by simp [ht]⟩
  simp only [SyncStatus.deleteDisabled, hnot]
  rfl

/-- The pools collected so far stay in the status, and each further one is added. -/
theorem ensureNewPools_lists {lb : Octavia.LoadBalancer} {pools : List Octavia.Pool}
    {s s' : SyncStatus} {nb nb' : Nb}
    (h : (ensureNewPools env lb s pools).run Nb.apply nb = (.ok s', nb')) :
    s'.listeners = s.listeners ∧ ∃ l, s'.pools.getD [] = s.pools.getD [] ++ l ∧
      l.length = pools.length ∧ ∀ status ∈ l, status.isText = false := by
  induction pools generalizing s nb with
  | nil =>
      cases h
      exact ⟨rfl, [], (List.append_nil _).symm, rfl, nofun⟩
  | cons pool pools ih =>
      rw [ensureNewPools] at h
      obtain ⟨info, t, -, h⟩ := Prog.run_bind_ok h
      obtain ⟨statusPool, t, hpool, h⟩ := Prog.run_bind_ok h
      have hnested := poolCreate_isText hpool
      -- what follows in the round adds to the members and the monitors only
      have hrest : ∀ {s₁ : SyncStatus} {t : Nb},
          (ensureNewPools env lb s₁ pools).run Nb.apply t = (.ok s', nb') →
          s₁.listeners = s.listeners → s₁.pools = some (s.pools.getD [] ++ [statusPool]) →
          s'.listeners = s.listeners ∧ ∃ l, s'.pools.getD [] = s.pools.getD [] ++ l ∧
            l.length = (pool :: pools).length ∧ ∀ status ∈ l, status.isText = false := by
        intro s₁ t h hl hp
        obtain ⟨hl', l, hp', hlen, hall⟩ := ih h
        refine ⟨hl'.trans hl, statusPool :: l, ?_, congrArg Nat.succ hlen, ?_⟩
        · rw [hp', hp, Option.getD_some, List.append_assoc, List.singleton_append]
        · rw [List.forall_mem_cons]
          exact ⟨hnested, hall⟩
      cases hm : pool.members with
      | none =>
          rw [hm] at h
          cases h
      | some members =>
          rw [hm] at h
          obtain ⟨statusMembers, t, -, h⟩ := Prog.run_bind_ok h
          dsimp only at h
          split at h
          · obtain ⟨s₂, t', hs₂, h⟩ := Prog.run_bind_ok h
            cases hs₂
            split at h
            · exact hrest h rfl rfl
            · exact hrest h rfl rfl
          · obtain ⟨statusHm, t', -, h⟩ := Prog.run_bind_ok h
            obtain ⟨s₂, t'', hs₂, h⟩ := Prog.run_bind_ok h
            cases hs₂
            split at h
            · exact hrest h rfl rfl
            · exact hrest h rfl rfl

end Statuses

section Creation
variable {info : LoadBalancerInfo} {port : Option Port} {ports : List (Option Port)} {nb : Nb}

/-- The ports of a failed creation are deleted one by one, and no failure is passed on. -/
theorem run_deleteVipPorts_ok (env : Env) (port : Option Port) (hports : none ∉ ports) (nb : Nb) :
    ((deleteVipPorts env port ports).run Nb.apply nb).1 = .ok () := by
  have hquiet : ∀ (id : Str) (nb : Nb), (((deletePort env id).tryCatch fun _ => pure ()).run
      Nb.apply nb).1 = .ok () := by
    intro id nb
    rw [Prog.run_tryCatch]
    rcases (deletePort env id).run Nb.apply nb with ⟨_ | _, _⟩
    · rfl
    · rfl
  have heach : ∀ nb, ((Prog.each (deleteAdditionalPort env) ports).run Nb.apply nb).1 = .ok () := by
    refine Prog.run_each_total fun port hm nb => ?_
    cases port with
    | none => exact absurd hm hports
    | some p => exact hquiet p.id nb
  cases port with
  | none => exact heach nb
  | some p =>
      have hrun := hquiet p.id nb
      have hbind := Prog.run_bind Nb.apply ((deletePort env p.id).tryCatch fun _ => pure ())
        (fun _ => Prog.each (deleteAdditionalPort env) ports) nb
      refine (congrArg Prod.fst hbind).trans ?_
      rcases hp : ((deletePort env p.id).tryCatch fun _ => pure ()).run Nb.apply nb with ⟨r, t⟩
      rw [hp] at hrun
      cases hrun
      exact heach t

/-- The lookup of an additional VIP that names its port finds a port or fails. -/
theorem vipPorts_additional (h : ∀ vip ∈ info.additionalVips, vip.portId ≠ []) :
    none ∉ (vipPorts env info).1.2.2 := by
  have hfold : ∀ (vips : List AdditionalVip)
      (acc : (Option Port × Option Subnet × List (Option Port)) × Except Exc Unit),
      (∀ vip ∈ vips, vip.portId ≠ []) → none ∉ acc.1.2.2 →
      none ∉ (vips.foldl (addVipPort env) acc).1.2.2 := by
    intro vips
    induction vips with
    | nil => exact fun _ _ hno => hno
    | cons vip vips ih =>
        intro acc hids hno
        rw [List.forall_mem_cons] at hids
        refine ih _ hids.2 ?_
        rcases acc with ⟨⟨port, subnet, ports⟩, _ | _⟩
        · exact hno
        · obtain ⟨c, id, hid⟩ := List.exists_cons_of_ne_nil hids.1
          simp only [addVipPort]
          rw [hid, getPortFromInfo]
          cases env.getPort (c :: id) with
          | error e => exact hno
          | ok port =>
              have hsome : none ∉ ports ++ [some port] := by simpa using hno
              dsimp only [Bind.bind, Except.bind, Pure.pure, Except.pure]
              split
              · next heq =>
                  split at heq
                  · cases heq
                    exact hsome
                  · cases heq
                    exact hsome
              · exact hno
  rw [vipPorts]
  cases env.neutronClient with
  | error e => exact List.not_mem_nil
  | ok _ =>
      dsimp only
      rcases getPortFromInfo env info.vipPortId info.vipNetworkId info.vipAddress true with
        _ | ⟨port, subnet⟩
      · exact List.not_mem_nil
      · exact hfold _ _ h List.not_mem_nil

/-- A creation that has found a port for the VIP ends with a status, as does one whose
lookups fail. -/
theorem lbCreate_ends (hup : info.adminStateUp.isSome) (hid : info.vipPortId = none)
    (hvips : ∀ vip ∈ info.additionalVips, vip.portId ≠ []) (protocol : Option Protocol) (nb : Nb)
    (hfound : (vipPorts env info).2 = .ok () → (vipPorts env info).1.1 ≠ none) :
    ∃ provisioning operating, ((lbCreate env info protocol).run Nb.apply nb).1 =
      .ok (lbStatusOf info.id provisioning operating) := by
  have hports : none ∉ (vipPorts env info).1.2.2 := vipPorts_additional hvips
  have hgive : ∀ port nb, ((do
      deleteVipPorts env port (vipPorts env info).1.2.2
      return lbStatusOf info.id ERROR ERROR : Nbctl Status).run Nb.apply nb).1 =
        .ok (lbStatusOf info.id ERROR ERROR) := by
    intro port nb
    have hrun := run_deleteVipPorts_ok env port hports nb
    rw [Prog.run_bind]
    rcases hp : (deleteVipPorts env port (vipPorts env info).1.2.2).run Nb.apply nb with ⟨r, t⟩
    rw [hp] at hrun
    cases hrun
    rfl
  obtain ⟨up, hup⟩ := Option.isSome_iff_exists.mp hup
  rw [lbCreate]
  rcases hv : vipPorts env info with ⟨⟨port, subnet, ports⟩, e | _⟩
  · rw [hv] at hgive
    exact ⟨ERROR, ERROR, hgive port nb⟩
  · rw [hv] at hgive hfound
    cases port with
    | none => exact absurd rfl (hfound rfl)
    | some p =>
        simp only [vipPortIdOf, hid, hup, Prog.ofExcept]
        cases hvip : info.vipAddress with
        | none => exact ⟨ERROR, ERROR, hgive (some p) nb⟩
        | some vip =>
            change ∃ provisioning operating, (((createLbRow env info protocol (addVipKeys info
              (baseExternalIds vip p.id up)) (some p) subnet).attempt >>= _).run Nb.apply nb).1 = _
            rw [Prog.run_bind, Prog.run_attempt]
            rcases (createLbRow env info protocol (addVipKeys info
              (baseExternalIds vip p.id up)) (some p) subnet).run Nb.apply nb with ⟨e | _, t⟩
            · exact ⟨ERROR, ERROR, hgive (some p) t⟩
            · exact ⟨ACTIVE, _, rfl⟩

theorem vipPort_of_lbCreate (hid : info.vipPortId = none) {protocol : Option Protocol}
    {status : Status} (h : ((lbCreate env info protocol).run Nb.apply nb).1 = .ok status)
    (hfound : (vipPorts env info).2 = .ok ()) : (vipPorts env info).1.1 ≠ none := by
  rw [lbCreate] at h
  rcases hv : vipPorts env info with ⟨⟨port, subnet, ports⟩, e | _⟩
  · rw [hv] at hfound
    cases hfound
  · rintro rfl
    rw [hv] at h
    simp only [vipPortIdOf, hid] at h
    cases h

end Creation

section Missing
variable {lb : Octavia.LoadBalancer} {nb : Nb}

/-- A tree as the sync builds it: a list that would be empty is unset, and an additional VIP
has its port. -/
structure Octavia.LoadBalancer.AsSynced (lb : Octavia.LoadBalancer) : Prop where
  listeners : lb.listeners ≠ some []
  pools : lb.pools ≠ some []
  members : ∀ pool ∈ lb.pools.getD [], pool.members ≠ some []
  additionalVips : ∀ vip ∈ lb.additionalVips, vip.portId ≠ []

/-- Neutron has a port for the VIP, unless one of the lookups fails. -/
def Octavia.LoadBalancer.VipPortFound (env : Env) (lb : Octavia.LoadBalancer) : Prop :=
  (vipPorts env (getLoadbalancerRequestInfo lb)).2 = .ok () →
    (vipPorts env (getLoadbalancerRequestInfo lb)).1.1 ≠ none

/-- The sync of a missing load balancer ends, Octavia takes its status, and the database is that
of the requests its creation queues. -/
def EnsuresMissing (env : Env) (lb : Octavia.LoadBalancer) (nb : Nb) : Prop :=
  ∃ status nb' requests, (ensureLoadbalancer env lb).run Nb.apply nb = (.ok [status], nb') ∧
    (Driver.loadbalancerCreate env lb).run Nb.apply nb = (.ok requests, nb) ∧
    nb' = requests.foldl (fun nb request => handled env request nb) nb

theorem run_ensureLoadbalancer_of_missing (hnone : nb.lbsNamed lb.loadbalancerId = []) :
    (ensureLoadbalancer env lb).run Nb.apply nb =
      (ensureMissing env lb >>= fun status => pure [status]).run Nb.apply nb := by
  rw [ensureLoadbalancer, Prog.run_bind, Prog.run_attempt, run_findOvnLbs, if_pos hnone]

/-- A status that is accepted lists no statuses. -/
theorem SyncStatus.isText_of_deleteDisabled {s : SyncStatus} {status : Status}
    (h : s.deleteDisabled = .ok status) :
    ∀ status ∈ s.listeners.getD [] ++ s.pools.getD [], status.isText = true := by
  intro nested hm
  by_contra ht
  rw [deleteDisabled_of_listed hm (Bool.eq_false_iff.mpr ht)] at h
  cases h

/-- What `ensureMissing` does once the listeners are collected. -/
def ensureMissingPools (env : Env) (lb : Octavia.LoadBalancer) (s : SyncStatus) : Nbctl Status :=
  match lb.pools with
  | none => do
      let status ← pure s
      Prog.ofExcept status.deleteDisabled
  | some pools => do
      let status ← ensureNewPools env lb { s with pools := some [] } pools
      Prog.ofExcept status.deleteDisabled

/-- A sync of a missing load balancer that ends has met no listener and no pool. -/
theorem ensureMissing_lists {status : Status} {nb' : Nb}
    (h : (ensureMissing env lb).run Nb.apply nb = (.ok status, nb')) :
    (∀ l ∈ lb.listeners, l = []) ∧ ∀ l ∈ lb.pools, l = [] := by
  have hpools : ∀ {s : SyncStatus} {t : Nb},
      (ensureMissingPools env lb s).run Nb.apply t = (.ok status, nb') →
      (∀ nested ∈ s.listeners.getD [], nested.isText = true) ∧ ∀ l ∈ lb.pools, l = [] := by
    intro s t h
    cases hp : lb.pools with
    | none =>
        rw [ensureMissingPools, hp] at h
        obtain ⟨s', t', hs', h⟩ := Prog.run_bind_ok h
        cases hs'
        rw [Prog.run_ofExcept] at h
        have htext := SyncStatus.isText_of_deleteDisabled (Prod.mk.inj h).1
        exact ⟨fun nested hm => htext nested (List.mem_append_left _ hm), by rintro _ ⟨⟩⟩
    | some pools =>
        rw [ensureMissingPools, hp] at h
        obtain ⟨s', t', hs', h⟩ := Prog.run_bind_ok h
        rw [Prog.run_ofExcept] at h
        have htext := SyncStatus.isText_of_deleteDisabled (Prod.mk.inj h).1
        obtain ⟨hl, l, hlists, hlen, hall⟩ := ensureNewPools_lists hs'
        rw [hl, hlists] at htext
        refine ⟨fun nested hm => htext nested (List.mem_append_left _ hm), ?_⟩
        rintro _ ⟨⟩
        rw [← List.length_eq_zero_iff, ← hlen, List.length_eq_zero_iff,
          List.eq_nil_iff_forall_not_mem]
        intro nested hm
        have hnested := htext nested (List.mem_append_right _ (List.mem_append_right _ hm))
        rw [hall nested hm] at hnested
        cases hnested
  rw [ensureMissing] at h
  obtain ⟨base, t, -, h⟩ := Prog.run_bind_ok h
  cases hl : lb.listeners with
  | none =>
      rw [hl] at h
      obtain ⟨s, t₁, hs, h⟩ := Prog.run_bind_ok h
      exact ⟨by rintro _ ⟨⟩, (hpools h).2⟩
  | some listeners =>
      rw [hl] at h
      obtain ⟨statuses, t₁, hstatuses, h⟩ := Prog.run_bind_ok h
      obtain ⟨s, t₂, hs, h⟩ := Prog.run_bind_ok h
      cases hs
      obtain ⟨htext, hp⟩ := hpools h
      refine ⟨?_, hp⟩
      rintro _ ⟨⟩
      cases Prog.forall₂_of_run_mapEach hstatuses with
      | nil => rfl
      | cons hrun _ =>
          obtain ⟨t, t', hrun⟩ := hrun
          obtain ⟨info, t'', -, hrun⟩ := Prog.run_bind_ok hrun
          have hnested := htext _ List.mem_cons_self
          rw [listenerCreate_isText hrun] at hnested
          cases hnested

/-- The sync of a missing load balancer does what its creation does exactly when there are no
listeners and no pools, and a port for the VIP is found. -/
theorem ensuresMissing_iff (hnone : nb.lbsNamed lb.loadbalancerId = []) (ht : lb.AsSynced) :
    EnsuresMissing env lb nb ↔
      lb.listeners = none ∧ lb.pools = none ∧ lb.VipPortFound env := by
  constructor
  · rintro ⟨status, nb', requests, hrun, -, -⟩
    rw [run_ensureLoadbalancer_of_missing hnone] at hrun
    obtain ⟨status', t, hmissing, -⟩ := Prog.run_bind_ok hrun
    obtain ⟨hl, hp⟩ := ensureMissing_lists hmissing
    refine ⟨?_, ?_, ?_⟩
    · cases h : lb.listeners with
      | none => rfl
      | some l => exact absurd (hl l h ▸ h) ht.listeners
    · cases h : lb.pools with
      | none => rfl
      | some l => exact absurd (hp l h ▸ h) ht.pools
    · obtain ⟨base, t', hbase, -⟩ := Prog.run_bind_ok hmissing
      exact vipPort_of_lbCreate rfl (congrArg Prod.fst hbase)
  · rintro ⟨hl, hp, hfound⟩
    obtain ⟨provisioning, operating, hend⟩ : ∃ provisioning operating,
        ((lbCreate env (getLoadbalancerRequestInfo lb) none).run Nb.apply nb).1 =
          .ok (lbStatusOf (getLoadbalancerRequestInfo lb).id provisioning operating) :=
      lbCreate_ends rfl rfl ht.additionalVips none nb hfound
    rcases hrun : (lbCreate env (getLoadbalancerRequestInfo lb) none).run Nb.apply nb with ⟨r, nb'⟩
    rw [hrun] at hend
    dsimp only at hend
    subst hend
    obtain ⟨status, hstatus⟩ : ∃ status, (SyncStatus.deleteDisabled
        { base := lbStatusOf lb.loadbalancerId provisioning operating }) = .ok status := ⟨_, rfl⟩
    refine ⟨status, nb', [.lbCreate (getLoadbalancerRequestInfo lb)], ?_, ?_, ?_⟩
    · rw [run_ensureLoadbalancer_of_missing hnone, ensureMissing, hl, hp, Prog.run_bind,
        Prog.run_bind, hrun]
      exact congrArg (fun r => (r.map fun s => [s], nb')) hstatus
    · rw [Driver.loadbalancerCreate, hl, hp]
      rfl
    · rw [List.foldl_cons, List.foldl_nil, handled_eq, handle, run_map_some, hrun]

end Missing

section Example

/-- A load balancer without listeners and pools, and the same with one listener. -/
def exampleBareTree : Octavia.LoadBalancer :=
  { loadbalancerId := exampleId 'a', vipAddress := some "10.0.0.2".toList
    vipNetworkId := some "net".toList }

def exampleListenerTree : Octavia.LoadBalancer :=
  { exampleBareTree with
    listeners := some [{ listenerId := exampleId 'b', loadbalancerId := exampleId 'a'
                         protocol := some .tcp, protocolPort := 80 }] }

theorem asSynced_exampleBareTree : exampleBareTree.AsSynced :=
  ⟨by decide, by decide, fun _ hm => absurd hm List.not_mem_nil,
    fun _ hm => absurd hm List.not_mem_nil⟩

theorem ensuresMissing_iff_example : EnsuresMissing exampleEnv exampleBareTree exampleNb :=
  (ensuresMissing_iff rfl asSynced_exampleBareTree).mpr ⟨rfl, rfl, fun _ => by decide +kernel⟩

theorem ensuresMissing_iff_counterexample :
    exampleListenerTree.AsSynced ∧ exampleNb.lbsNamed exampleListenerTree.loadbalancerId = [] ∧
      ((ensureLoadbalancer exampleEnv exampleListenerTree).run Nb.apply exampleNb).1 =
        .error .typeError ∧
      ¬EnsuresMissing exampleEnv exampleListenerTree exampleNb := by
  have hrun : ((ensureLoadbalancer exampleEnv exampleListenerTree).run Nb.apply exampleNb).1 =
      .error .typeError := by decide +kernel
  refine ⟨⟨by decide, by decide, fun _ hm => absurd hm List.not_mem_nil,
    fun _ hm => absurd hm List.not_mem_nil⟩, rfl, hrun, ?_⟩
  rintro ⟨status, nb', requests, h, -, -⟩
  rw [h] at hrun
  cases hrun

end Example

end OvnOctavia
