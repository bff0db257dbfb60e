import OvnOctavia.HealthMonitor
import OvnOctavia.Rows

/-!
The programs that leave the objects of every row alone: those that associate a
row with switches and routers, that keep health checks and address mappings, and
that read only. Most of them work on one row.
-/

namespace OvnOctavia

abbrev Peripheral {α : Type} (p : Nbctl α) : Prop := p.Uses Command.IsPeripheral

/-- The same for a program that works on the row `u` only. -/
abbrev PeripheralOn {α : Type} (u : Nat) (p : Nbctl α) : Prop :=
  p.Uses fun c => c.IsPeripheral ∧ c.Targets u

theorem PeripheralOn.peripheral {α : Type} {u : Nat} {p : Nbctl α} (h : PeripheralOn u p) :
    Peripheral p := h.mono fun _ hc => hc.1

theorem PeripheralOn.sameObjects {α : Type} {u : Nat} {p : Nbctl α} (h : PeripheralOn u p)
    (nb : Nb) : nb.SameObjects (p.run Nb.apply nb).2 := sameObjects_run h.peripheral nb

/-- The same for a program that only associates the row `u` with switches and routers. -/
abbrev AssociatesOn {α : Type} (u : Nat) (p : Nbctl α) : Prop := p.Uses (Command.Associates u)

theorem AssociatesOn.peripheralOn {α : Type} {u : Nat} {p : Nbctl α} (h : AssociatesOn u p) :
    PeripheralOn u p := h.mono fun _ => Command.Associates.isPeripheral

section Reading
variable {C : Command → Prop}

theorem uses_readLb (lb : LoadBalancer) : (readLb lb).Uses C :=
  .read fun _ => .pure _

theorem uses_executeCommands {cs : List Command} (h : ∀ c ∈ cs, C c) :
    (executeCommands cs).Uses C := by
  cases cs with
  | nil => exact .pure ()
  | cons c cs => exact .transaction h

theorem uses_currentOperatingStatuses (env : Env) (lb : Option LoadBalancer) :
    (currentOperatingStatuses env lb).Uses C := by
  cases lb with
  | none => exact .throw _
  | some lb => exact .bind (uses_readLb lb) fun _ => .ofExcept _

theorem uses_findOvnLbs (lbId : Str) : (findOvnLbs lbId).Uses C := by
  refine .read fun nb => ?_
  split
  · exact .throw _
  · exact .pure _

theorem uses_findOvnLb (lbId : Str) (p : Protocol) : (findOvnLb lbId p).Uses C :=
  .read fun _ => .ofExcept _

theorem uses_findOvnLbOrFirst (lbId : Str) (p : Option Protocol) :
    (findOvnLbOrFirst lbId p).Uses C := by
  cases p with
  | some p => exact uses_findOvnLb lbId p
  | none =>
      refine .bind (uses_findOvnLbs lbId) fun lbs => ?_
      cases lbs with
      | nil => exact .throw _
      | cons lb lbs => exact .pure lb

theorem uses_findOvnLbByPoolId (poolId : Str) : (findOvnLbByPoolId poolId).Uses C := by
  refine .bind (.read fun _ => .pure _) fun found => ?_
  split
  · exact .pure _
  · exact .bind (.read fun _ => .pure _) fun _ => .pure _

theorem uses_healthChecksOf (lb : LoadBalancer) : (healthChecksOf lb).Uses C :=
  .read fun _ => .pure _

theorem uses_readMembers (lb : LoadBalancer) (poolKey : Str) :
    (readMembers lb poolKey).Uses C := by
  refine .bind (uses_readLb lb) fun row => ?_
  split
  · exact .throw _
  · exact .ofExcept _

end Reading

section Associations
variable {lb : LoadBalancer} {cs : List Command}

theorem associates_updateLsRefs {a : LsAssociation} {lsRefs : Dict Str Nat}
    (h : updateLsRefs lb a lsRefs = .ok cs) : ∀ c ∈ cs, c.Associates lb.uuid := by
  have hset : ∀ c ∈ [setLsRefs lb lsRefs], c.Associates lb.uuid := by
    intro c hc
    rw [List.mem_singleton.mp hc]
    exact ⟨rfl, lbExtIdsLsRefsKey, by decide, _, rfl⟩
  unfold updateLsRefs at h
  split at h
  · cases h; simp
  · split at h
    · cases h; exact hset
    · split at h
      · cases h
      · dsimp only at h
        split at h
        · cases h; simp
        · cases h; exact hset

private theorem forall_map_cons {C : Command → Prop} {r : Except Exc (List Command)} {c : Command}
    (hc : C c) (h : r.map (c :: ·) = .ok cs) (hr : ∀ cs, r = .ok cs → ∀ c ∈ cs, C c) :
    ∀ c ∈ cs, C c := by
  cases r with
  | error e => cases h
  | ok ds =>
      cases h
      exact List.forall_mem_cons.mpr ⟨hc, hr ds rfl⟩

theorem associates_lsCommands {a : LsAssociation} {lsName : Option Str}
    {ovnLs : Option LogicalSwitch} (h : lsCommands lb a lsName ovnLs = .ok cs) :
    ∀ c ∈ cs, c.Associates lb.uuid := by
  have hrefs : ∀ {lsRefs : Dict Str Nat} (ds : List Command),
      updateLsRefs lb a lsRefs = .ok ds → ∀ c ∈ ds, c.Associates lb.uuid :=
    fun _ => associates_updateLsRefs
  have hadd : ∀ ls : SwitchRef, (Command.lsLbAdd ls lb.uuid).Associates lb.uuid := fun _ => rfl
  have hdel : ∀ ls : SwitchRef, (Command.lsLbDel ls lb.uuid true).Associates lb.uuid :=
    fun _ => rfl
  unfold lsCommands at h
  dsimp only at h
  split at h
  · split at h
    · exact hrefs _ h
    · split at h
      · split at h
        · exact hrefs _ h
        · exact forall_map_cons (hadd _) h hrefs
      · split at h
        · cases h
          exact List.forall_mem_cons.mpr ⟨hdel _, by simp⟩
        · split at h
          · exact forall_map_cons (hdel _) h hrefs
          · exact hrefs _ h
  · split at h
    · cases h; simp
    · split at h
      · cases h; simp
      · split at h
        · exact hrefs _ h
        · exact hrefs _ h
  · cases h; simp

theorem LoadBalancer.uuid_live (lb : LoadBalancer) (nb : Nb) : (lb.live nb).uuid = lb.uuid := by
  unfold LoadBalancer.live
  cases h : nb.lb? lb.uuid with
  | none => rfl
  | some row => exact (Nb.lb?_eq_some h).2

theorem associates_getLbToLsAssociationCommands {env : Env} {nb : Nb} {a : LsAssociation}
    (h : getLbToLsAssociationCommands env nb lb a = .ok cs) :
    ∀ c ∈ cs, c.Associates lb.uuid := by
  unfold getLbToLsAssociationCommands at h
  cases hn : lsNameOf env a with
  | error e => rw [hn] at h; cases h
  | ok name =>
      rw [hn] at h
      cases name with
      | none => cases h; simp
      | some lsName =>
          rw [← lb.uuid_live nb]
          exact associates_lsCommands h

/-- Commands computed from one view and committed at once. -/
theorem uses_computed {C : Command → Prop} {f : Nb → Except Exc (List Command)}
    (h : ∀ nb cs, f nb = .ok cs → ∀ c ∈ cs, C c) :
    (do
      let nb ← Prog.get
      let commands ← Prog.ofExcept (f nb)
      executeCommands commands : Nbctl Unit).Uses C := by
  refine .read fun nb => ?_
  change ((Prog.ofExcept (f nb) : Nbctl _) >>= fun cs => executeCommands cs).Uses C
  cases hf : f nb with
  | error e => exact .throw e
  | ok cs => exact uses_executeCommands (h nb cs hf)

theorem associates_updateLbToLsAssociation (env : Env) (lb : LoadBalancer) (a : LsAssociation) :
    AssociatesOn lb.uuid (updateLbToLsAssociation env lb a) :=
  .retry (uses_computed fun _ _ => associates_getLbToLsAssociationCommands) 2

theorem associates_delLbToLrAssociation {env : Env} {lr : LogicalRouter} {lrRef : Option Str}
    (h : delLbToLrAssociation env lb lr lrRef = .ok cs) :
    ∀ c ∈ cs, c.Associates lb.uuid := by
  unfold delLbToLrAssociation at h
  cases hv : vipVersion env lb with
  | error e => rw [hv] at h; cases h
  | ok v =>
      rw [hv] at h
      cases hn : findLsForLr env lr v with
      | error e =>
          simp only [Bind.bind, Except.bind, hn] at h
          cases h
      | ok nets =>
          simp only [Bind.bind, Except.bind, hn] at h
          cases h
          intro c hc
          rcases List.mem_append.mp hc with hc | hc
          · split at hc
            · simp only [List.mem_cons, List.not_mem_nil, or_false] at hc
              rcases hc with rfl | rfl
              · split
                · exact ⟨rfl, lbExtIdsLrRefKey, by decide, _, rfl⟩
                · exact ⟨rfl, (by decide : lbExtIdsLrRefKey ∈ associationKeys)⟩
              · exact rfl
            · cases hc
          · obtain ⟨net, -, rfl⟩ := List.mem_map.mp hc
            exact rfl

theorem associates_addLbToLrAssociation {env : Env} {nb : Nb} {lr : LogicalRouter}
    {lrRef : Option Str} {isSync : Bool}
    (h : addLbToLrAssociation env nb lb lr lrRef isSync = .ok cs) :
    ∀ c ∈ cs, c.Associates lb.uuid := by
  unfold addLbToLrAssociation at h
  cases hv : vipVersion env lb with
  | error e => rw [hv] at h; cases h
  | ok v =>
      rw [hv] at h
      cases hn : findLsForLr env lr v with
      | error e =>
          simp only [Bind.bind, Except.bind, hn] at h
          cases h
      | ok nets =>
          simp only [Bind.bind, Except.bind, hn] at h
          cases h
          intro c hc
          rcases List.mem_append.mp hc with hc | hc
          · rcases List.mem_append.mp hc with hc | hc
            · split at hc
              · cases hc
              · rw [List.mem_singleton.mp hc]
                exact rfl
            · obtain ⟨net, -, rfl⟩ := List.mem_map.mp hc
              exact rfl
          · split at hc
            · cases hc
            · rw [List.mem_singleton.mp hc]
              exact ⟨rfl, lbExtIdsLrRefKey, by decide, _, rfl⟩

theorem associates_getLbToLrAssociationCommands {env : Env} {nb : Nb} {lr : LogicalRouter}
    {delete isSync : Bool} (h : getLbToLrAssociationCommands env nb lb lr delete isSync = .ok cs) :
    ∀ c ∈ cs, c.Associates lb.uuid := by
  rw [← lb.uuid_live nb]
  unfold getLbToLrAssociationCommands at h
  dsimp only at h
  split at h
  · exact associates_delLbToLrAssociation h
  · exact associates_addLbToLrAssociation h

theorem associates_updateLbToLrAssociation (env : Env) (lb : LoadBalancer) (lr : LogicalRouter)
    (delete isSync : Bool) :
    AssociatesOn lb.uuid (updateLbToLrAssociation env lb lr delete isSync) :=
  .retry (uses_computed fun _ _ => associates_getLbToLrAssociationCommands) 2

theorem associates_updateLbToLrAssociationByStep (env : Env) (lb : LoadBalancer)
    (lr : LogicalRouter) (delete isSync : Bool) :
    AssociatesOn lb.uuid (updateLbToLrAssociationByStep env lb lr delete isSync) := by
  refine .read fun nb => ?_
  change AssociatesOn lb.uuid ((Prog.ofExcept _ : Nbctl _) >>= _)
  cases hf : getLbToLrAssociationCommands env nb lb lr delete isSync with
  | error e => exact .throw e
  | ok cs =>
      refine .each fun c hc => ?_
      refine .tryCatch (.transaction ?_) fun e => ?_
      · simpa using associates_getLbToLrAssociationCommands hf c hc
      · split
        · exact .pure ()
        · exact .throw e

theorem associates_associateLr (env : Env) (lb : LoadBalancer) (lr : LogicalRouter) :
    AssociatesOn lb.uuid (associateLr env lb lr) := by
  refine .tryCatch (associates_updateLbToLrAssociation env lb lr false false) fun e => ?_
  split
  · exact associates_updateLbToLrAssociationByStep env lb lr false false
  · exact .throw e

theorem associates_syncLbToLrAssociation (env : Env) (lb : LoadBalancer) (lr : LogicalRouter) :
    AssociatesOn lb.uuid (syncLbToLrAssociation env lb lr) := by
  refine .tryCatch (associates_updateLbToLrAssociation env lb lr false true) fun e => ?_
  split
  · exact .tryCatch (associates_updateLbToLrAssociationByStep env lb lr false true) fun _ =>
      .pure ()
  · exact .throw e

theorem uses_findRelatedLr {C : Command → Prop} (env : Env) (subnetId : Str) :
    (findRelatedLr env subnetId).Uses C := by
  refine .bind (.ofExcept _) fun _ => ?_
  split
  · exact .pure _
  · exact .throw _
  · refine .bind .get fun nb => ?_
    split
    · exact .pure _
    · exact .ofExcept _

theorem associates_associateMember (env : Env) (member : MemberInfo) (lb : LoadBalancer) :
    AssociatesOn lb.uuid (associateMember env member lb) := by
  unfold associateMember
  split
  · exact .throw _
  · refine .bind (associates_updateLbToLsAssociation env lb _) fun _ => ?_
    refine .bind (uses_findRelatedLr env _) fun lr => ?_
    split
    · exact .pure ()
    · exact associates_associateLr env lb _

theorem uses_lsGet {C : Command → Prop} (name : Str) : (lsGet name).Uses C := by
  refine .read fun nb => ?_
  split
  · exact .pure _
  · exact .throw _

theorem associates_associateVipLs (env : Env) (lb : LoadBalancer) (port : Port) (isSync : Bool)
    (network : Option Network) :
    AssociatesOn lb.uuid (associateVipLs env lb port isSync network) := by
  cases network with
  | none => exact .throw _
  | some network =>
      rw [associateVipLs]
      split
      · exact .pure ()
      · exact associates_updateLbToLsAssociation env lb _

theorem associates_associateVipLr (env : Env) (lb : LoadBalancer) (ls : LogicalSwitch)
    (subnet : Option Subnet) : AssociatesOn lb.uuid (associateVipLr env lb ls subnet) := by
  cases subnet with
  | none => exact .throw _
  | some subnet =>
      refine .bind .get fun nb => .bind (.ofExcept _) fun lr => ?_
      split
      · exact associates_associateLr env lb _
      · exact .pure ()

theorem associates_associateCountedLs (env : Env) (lb : LoadBalancer) (ls : LogicalSwitch)
    (lsRefs : Option Str) : AssociatesOn lb.uuid (associateCountedLs env lb ls lsRefs) := by
  unfold associateCountedLs
  split
  · refine .each fun name _ => ?_
    split
    · exact .pure ()
    · exact associates_updateLbToLsAssociation env lb _
  · exact .pure ()

theorem associates_associateNewLb (env : Env) (info : LoadBalancerInfo) (lb : LoadBalancer)
    (port : Port) (subnet : Option Subnet) :
    AssociatesOn lb.uuid (associateNewLb env info lb port subnet) :=
  .bind (.ofExcept _) fun network =>
    .bind (associates_associateVipLs env lb port false network) fun _ =>
      .bind (uses_lsGet _) fun ls =>
        .bind (associates_associateVipLr env lb ls subnet) fun _ =>
          associates_associateCountedLs env lb ls info.lsRefs

theorem peripheral_updateLbToLsAssociation (env : Env) (lb : LoadBalancer) (a : LsAssociation) :
    PeripheralOn lb.uuid (updateLbToLsAssociation env lb a) :=
  (associates_updateLbToLsAssociation env lb a).peripheralOn

theorem peripheral_updateLbToLrAssociation (env : Env) (lb : LoadBalancer) (lr : LogicalRouter)
    (delete isSync : Bool) :
    PeripheralOn lb.uuid (updateLbToLrAssociation env lb lr delete isSync) :=
  (associates_updateLbToLrAssociation env lb lr delete isSync).peripheralOn

theorem peripheral_updateLbToLrAssociationByStep (env : Env) (lb : LoadBalancer)
    (lr : LogicalRouter) (delete isSync : Bool) :
    PeripheralOn lb.uuid (updateLbToLrAssociationByStep env lb lr delete isSync) :=
  (associates_updateLbToLrAssociationByStep env lb lr delete isSync).peripheralOn

theorem peripheral_associateMember (env : Env) (member : MemberInfo) (lb : LoadBalancer) :
    PeripheralOn lb.uuid (associateMember env member lb) :=
  (associates_associateMember env member lb).peripheralOn

theorem peripheral_associateNewLb (env : Env) (info : LoadBalancerInfo) (lb : LoadBalancer)
    (port : Port) (subnet : Option Subnet) :
    PeripheralOn lb.uuid (associateNewLb env info lb port subnet) :=
  (associates_associateNewLb env info lb port subnet).peripheralOn

end Associations

section Monitoring
variable (env : Env) {u : Nat}

theorem uses_deletePort {C : Command → Prop} (hC : ∀ id, C (.portDelete id)) (portId : Str) :
    (deletePort env portId).Uses C := by
  refine .bind (.execute ?_) fun _ => ?_
  · simpa using hC portId
  · split
    · exact .pure ()
    · exact .pure ()
    · exact .throw _

/-- What `deleteVipPorts` does to one port of the additional VIPs. -/
def deleteAdditionalPort (env : Env) : Option Port → Nbctl Unit
  | some p => (deletePort env p.id).tryCatch fun _ => pure ()
  | none => throw .attributeError

theorem uses_deleteVipPorts {C : Command → Prop} (hC : ∀ id, C (.portDelete id))
    (port : Option Port) (additional : List (Option Port)) :
    (deleteVipPorts env port additional).Uses C := by
  have hquiet : ∀ id : Str, ((deletePort env id).tryCatch fun _ => pure ()).Uses C :=
    fun id => .tryCatch (uses_deletePort env hC id) fun _ => .pure ()
  have heach : (Prog.each (deleteAdditionalPort env) additional).Uses C := by
    refine .each fun p _ => ?_
    cases p with
    | none => exact .throw _
    | some p => exact hquiet p.id
  cases port with
  | none => exact heach
  | some p => exact .bind (hquiet p.id) fun _ => heach

theorem peripheral_deletePort (portId : Str) : PeripheralOn u (deletePort env portId) :=
  uses_deletePort env (fun _ => ⟨trivial, trivial⟩) portId

theorem peripheral_deleteVipPorts (port : Option Port) (additional : List (Option Port)) :
    PeripheralOn u (deleteVipPorts env port additional) :=
  uses_deleteVipPorts env (fun _ => ⟨trivial, trivial⟩) port additional

theorem uses_cleanUpHmPorts {C : Command → Prop} (hC : ∀ id, C (.portDelete id)) (subnetId : Str)
    (monitored : List Str) (ports : List Port) (seen : Option Str) :
    (cleanUpHmPorts env subnetId monitored seen ports).Uses C := by
  induction ports generalizing seen with
  | nil => exact .pure ()
  | cons port ports ih =>
      rw [cleanUpHmPorts]
      split
      · split
        · exact .pure ()
        · exact .bind (uses_deletePort env hC port.id) fun _ => ih _
      · exact ih _

theorem uses_cleanUpHmPort {C : Command → Prop} (hC : ∀ id, C (.portDelete id)) (subnetId : Str) :
    (cleanUpHmPort env subnetId).Uses C :=
  .bind (.ofExcept _) fun _ => .bind (.ofExcept _) fun ports => .bind .get fun _ =>
    uses_cleanUpHmPorts env hC subnetId _ ports none

theorem peripheral_cleanUpHmPort (subnetId : Str) : PeripheralOn u (cleanUpHmPort env subnetId) :=
  uses_cleanUpHmPort env (fun _ => ⟨trivial, trivial⟩) subnetId

theorem uses_ensureHmOvnPort {C : Command → Prop} (hC : ∀ id, C (.portDelete id))
    (networkId subnetId : Str) : (ensureHmOvnPort env networkId subnetId).Uses C := by
  refine .bind (.ofExcept _) fun _ => .bind (.ofExcept _) fun found => ?_
  split
  · exact .pure _
  · split
    · exact .pure _
    · exact .bind (uses_cleanUpHmPort env hC subnetId) fun _ => .pure _
    · exact .throw _

theorem peripheral_ensureHmOvnPort (networkId subnetId : Str) :
    PeripheralOn u (ensureHmOvnPort env networkId subnetId) :=
  uses_ensureHmOvnPort env (fun _ => ⟨trivial, trivial⟩) networkId subnetId

theorem peripheral_getMemberLsp (ip subnetId : Str) :
    PeripheralOn u (getMemberLsp env ip subnetId) := by
  refine .bind (.ofExcept _) fun _ => ?_
  split
  · exact .pure _
  · exact .throw _
  · refine .bind .get fun nb => ?_
    split
    · exact .pure _
    · exact .pure _

theorem peripheral_updateIpPortMappings (lb : LoadBalancer) (backendIp portName srcIp : Str)
    (delete : Bool) :
    PeripheralOn lb.uuid (updateIpPortMappings env lb backendIp portName srcIp delete) := by
  refine .bind (.ofExcept _) fun _ => .execute fun c hc => ?_
  rw [List.mem_singleton.mp hc]
  split
  · exact ⟨trivial, rfl⟩
  · exact ⟨trivial, rfl⟩

theorem peripheral_updateHmMember (lb : LoadBalancer) (poolKey backendIp : Str) (delete : Bool) :
    PeripheralOn lb.uuid (updateHmMember env lb poolKey backendIp delete) := by
  refine .bind (uses_readLb lb) fun row => ?_
  split
  · exact .throw _
  · refine .bind (.ofExcept _) fun members => ?_
    split
    · exact .pure _
    · refine .bind (peripheral_getMemberLsp env _ _) fun lsp => ?_
      split
      · exact .pure _
      · refine .bind (.ofExcept _) fun networkId => ?_
        refine .bind (peripheral_ensureHmOvnPort env networkId _) fun port => ?_
        split
        · exact .pure _
        · split
          · exact .bind (peripheral_updateIpPortMappings env lb _ _ _ _) fun _ => .pure _
          · exact .pure _

theorem peripheral_cleanIpPortMappings (lb : LoadBalancer) (poolKey : Str) :
    PeripheralOn lb.uuid (cleanIpPortMappings env lb poolKey) := by
  refine .bind (uses_readLb lb) fun row => ?_
  split
  · exact .throw _
  · refine .bind (.ofExcept _) fun members => .bind (.ofExcept _) fun others =>
      .bind (.ofExcept _) fun statuses => .each fun m _ => ?_
    split
    · exact .pure ()
    · exact peripheral_updateIpPortMappings env lb _ _ _ _

theorem peripheral_newMemberStatus (lb : LoadBalancer) (poolKey memberInfo : Str) :
    PeripheralOn lb.uuid (newMemberStatus env lb poolKey memberInfo) := by
  refine .bind (.ofExcept _) fun members => ?_
  split
  · exact .throw _
  · exact .bind (peripheral_updateHmMember env lb poolKey _ false) fun _ => .pure _

theorem peripheral_updateLbhcVipPort (hc : HealthCheck) (vipPort : Nat) :
    Peripheral (updateLbhcVipPort env hc vipPort) := by
  have hset : ∀ vip : Str, Peripheral (executeCommands [.hcUpdate hc.uuid (.setVip vip)]) :=
    fun vip => uses_executeCommands (List.forall_mem_cons.mpr ⟨trivial, by simp⟩)
  unfold updateLbhcVipPort
  split
  · exact hset _
  · split
    · exact .bind (.ofExcept _) fun vip => hset _
    · exact hset _

theorem peripheral_updateLbhcVipPorts (info : ListenerInfo) (lb : LoadBalancer) :
    Peripheral (updateLbhcVipPorts env info lb) := by
  unfold updateLbhcVipPorts
  split
  · exact .pure ()
  · refine .bind (uses_healthChecksOf lb) fun lbhcs => .each fun hc _ => ?_
    split
    · exact peripheral_updateLbhcVipPort env hc _
    · exact .pure ()

theorem peripheral_handleMemberDvr (member : MemberInfo) (added : Bool) :
    PeripheralOn u (handleMemberDvr env member added) := by
  unfold handleMemberDvr
  split
  · exact .throw _
  · refine .bind (uses_findOvnLbByPoolId _) fun found => ?_
    obtain ⟨-, lb⟩ := found
    cases lb with
    | none => exact .throw _
    | some lb =>
        refine .bind (uses_readLb lb) fun row => ?_
        split
        · exact .pure ()
        · refine .bind (.ofExcept _) fun _ => ?_
          split
          · split
            · exact .pure ()
            · exact .throw _
            · refine .bind .get fun nb => ?_
              dsimp only
              split
              · exact .pure ()
              · split
                · have hnat : ∀ c : Command, c.IsPeripheral ∧ c.Targets u →
                      ∀ d ∈ [c], d.IsPeripheral ∧ d.Targets u := fun c hc => by simpa using hc
                  exact .bind (.transaction (hnat _ ⟨trivial, trivial⟩)) fun _ =>
                    .transaction (hnat _ ⟨trivial, trivial⟩)
                · split
                  · exact .throw _
                  · split
                    · exact .pure ()
                    · exact .pure ()
                    · exact .throw _
          · exact .throw _

end Monitoring

section Persistence
variable (env : Env)

theorem isPeripheral_updateAffinity (row : LoadBalancer) (info : PoolInfo) :
    ∀ c ∈ updateAffinity row info, c.IsPeripheral := by
  unfold updateAffinity
  split
  · exact List.forall_mem_cons.mpr ⟨trivial, by simp⟩
  · simp

/-- A pool update without admin state changes the session persistence only. -/
theorem peripheral_poolUpdate {info : PoolInfo} (hup : info.adminStateUp = none) :
    Peripheral (poolUpdate env info) := by
  rw [poolUpdate]
  split
  · exact .pure _
  · refine .bind (.attempt (uses_findOvnLb _ _)) fun found => ?_
    split
    · exact .pure _
    · exact .throw _
    · refine .bind (uses_readLb _) fun row => .bind (.attempt ?_) fun r => ?_
      · rw [poolUpdateOn, hup]
        change Peripheral (readLb _ >>= fun row =>
          executeCommands ([] ++ updateAffinity row info) >>= fun _ => throw .keyError)
        exact .bind (uses_readLb _) fun row =>
          .bind (uses_executeCommands (isPeripheral_updateAffinity row info)) fun _ =>
            .throw _
      · split
        · exact .pure _
        · exact .pure _

end Persistence

end OvnOctavia
