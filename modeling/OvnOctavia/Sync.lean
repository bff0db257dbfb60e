import OvnOctavia.Handler

/-!
The repair of the rows of one load balancer object by object, as a sync with
Octavia does it. Each pass works on the row the previous one committed.
-/

namespace OvnOctavia

section LoadBalancers
variable (env : Env)

def syncVipLs (ovnLb : LoadBalancer) (port : Port) : Option Network → Nbctl Unit
  | none => pure ()
  | some network =>
      (associateVipLs env ovnLb port true (some network)).tryCatch fun e =>
        if e = .rowNotFound then pure () else throw e

def syncVipLr (nb : Nb) (ovnLb : LoadBalancer) (subnet : Subnet) (ovnLs : Option LogicalSwitch) :
    Nbctl Unit :=
  match ovnLs.map fun ls => findLrOfLs env nb ls subnet.gatewayIp with
  | some (.ok (some lr)) => syncLbToLrAssociation env ovnLb lr
  | _ => pure ()

/-- The switches of the request's counts; the loop needs the switch of the VIP. -/
def syncCountedLs (ovnLb : LoadBalancer) (ovnLs : Option LogicalSwitch) (lsRefs : Option Str) :
    Nbctl Unit :=
  match lsRefs with
  | some (c :: refs) =>
      Prog.each (fun ls =>
        match ovnLs with
        | none => throw .unboundLocalError
        | some ovnLs =>
            if ls = ovnLs.name then pure () else
              updateLbToLsAssociation env ovnLb
                { networkId := some (ovnUuid ls), isSync := true })
        ((Json.loadsCounts (c :: refs)).getD ∅).keys
  | _ => pure ()

def syncLbAssociations (ovnLb : LoadBalancer) (port : Port) (subnet : Subnet)
    (info : LoadBalancerInfo) : Nbctl Unit := do
  let network ← Prog.ofExcept (env.getNetwork port.networkId)
  syncVipLs env ovnLb port network
  let nb ← Prog.get
  let ovnLs := nb.switch? (.name (ovnName subnet.networkId))
  syncVipLr env nb ovnLb subnet ovnLs
  syncCountedLs env ovnLb ovnLs info.lsRefs

/-- `_sync_external_ids` and `_sync_selection_fields`. -/
def syncLbCommands (info : LoadBalancerInfo) (row : LoadBalancer) (port : Port) :
    Except Exc (List Command) :=
  match info.vipAddress, vipPortIdOf info (some port) with
  | some vip, .ok vipPortId =>
      let externalIds := addVipKeys info
        (baseExternalIds vip vipPortId (info.adminStateUp.getD true))
      let keys : List Command :=
        if externalIds.items.all fun b => row.externalIds.get? b.1 = some b.2 then []
        else [.lbUpdate row.uuid (.setExternalIds externalIds)]
      let fields := getSelectionKeys (some (info.lbAlgorithm.getD .sourceIpPort))
      let selection : List Command :=
        if env.areSelectionFieldsSupported ∧ fields ≠ row.selectionFields then
          [.lbUpdate row.uuid (.setSelectionFields fields)]
        else []
      .ok (keys ++ selection)
  | _, _ => .error .typeError

def lbSync (info : LoadBalancerInfo) (ovnLb : LoadBalancer) : Nbctl Unit := do
  match env.neutronClient with
  | .error .driverError => pure ()
  | .error e => throw e
  | .ok _ =>
      match getPortFromInfo env info.vipPortId info.vipNetworkId info.vipAddress true with
      | .error .resourceNotFound | .error .attributeError => pure ()
      | .error e => throw e
      | .ok (some port, some subnet) =>
          let row ← readLb ovnLb
          match ← (do
            let commands ← Prog.ofExcept (syncLbCommands env info row port)
            executeCommands commands : Nbctl Unit).attempt with
          | .error _ => pure ()
          | .ok _ =>
              let row ← readLb ovnLb
              let associated ← (do
                let found ← findOvnLbOrFirst info.id row.protocol
                syncLbAssociations env found port subnet info : Nbctl Unit).attempt
              match associated with
              | .ok _ | .error _ => pure ()
      | .ok _ => pure ()

end LoadBalancers

section Objects
variable (env : Env)

/-- The key of the listener written unless the row has it with this value. -/
def syncListenerKey (row : LoadBalancer) (listenerKey value : Str) : List Command :=
  if row.externalIds.get? listenerKey = some value then []
  else [.lbUpdate row.uuid (.setExternalIds (.single listenerKey value))]

/-- The protocol of the row becomes that of the listener. -/
def syncProtocol (row : LoadBalancer) (info : ListenerInfo) : List Command :=
  if row.protocol = some info.protocol then []
  else [.lbUpdate row.uuid (.setProtocol (some info.protocol))]

def listenerSync (info : ListenerInfo) (ovnLb : LoadBalancer) : Nbctl Unit := do
  let row ← readLb ovnLb
  let listenerKey := getListenerKey info.id (info.adminStateUp.getD false)
  let value := makeListenerKeyValue info.protocolPort (defaultPoolKey info)
  match ← (refreshLbVips env ovnLb (row.externalIds.set listenerKey value) true).attempt with
  | .error _ => pure ()
  | .ok refresh =>
      (executeCommands (syncListenerKey row listenerKey value ++ syncProtocol row info ++
        refresh)).tryCatch fun _ => pure ()

/-- `_prepare_external_ids`: the pool's value is emptied, and its key put at the
end of the value of its enabled listener. -/
def prepareExternalIds (info : PoolInfo) (up : Bool) (externalIds : Dict Str Str) :
    Dict Str Str :=
  let poolKey := getPoolKey info.id up
  let withPool := externalIds.set poolKey []
  match listenerOf info with
  | none => withPool
  | some listenerId =>
      let listenerKey := getListenerKey listenerId true
      match externalIds.get? listenerKey with
      | none => withPool
      | some value =>
          let value :=
            if Str.contains info.id value then
              Str.replace (getPoolKey info.id true) []
                (Str.replace (getPoolKey info.id false) [] value)
            else value
          withPool.set listenerKey (value ++ poolKey)

def poolSync (info : PoolInfo) (ovnLb : LoadBalancer) : Nbctl Unit := do
  match info.adminStateUp with
  | none => throw .keyError
  | some up =>
      let row ← readLb ovnLb
      let options : List Command :=
        match info.sessionPersistence with
        | some (some p) =>
            if p.hasTimeout ∧ row.options.get? affinityTimeout ≠ some p.timeoutText then
              [setAffinity row p.timeoutText]
            else []
        | _ => []
      (executeCommands (.lbUpdate ovnLb.uuid
        (.setExternalIds (prepareExternalIds info up row.externalIds)) :: options)).tryCatch
          fun _ => pure ()

/-- `_update_pool_data`: the new pool value, nothing when the member is in it. -/
def updatePoolData (memberInfo : Str) (existing : Option Str) : Option Str :=
  let items := poolItems (existing.getD [])
  if memberInfo ∈ items then none else some (Str.join ',' (items ++ [memberInfo]))

/-- The transaction of `member_sync`; an enabled member refreshes the traffic map. -/
def memberSyncOn (member : MemberInfo) (ovnLb : LoadBalancer) (poolKey : Str)
    (present : Dict Str Str) (memberInfo : Str) : Nbctl Unit := do
  let data := updatePoolData memberInfo (present.get? poolKey)
  let externalIds := (data.map (present.set poolKey)).getD present
  let set : List Command := data.toList.map fun value =>
    .lbUpdate ovnLb.uuid (.setExternalIds (.single poolKey value))
  let refresh ←
    if member.adminStateUp = some true then refreshLbVips env ovnLb externalIds true else pure []
  executeCommands (set ++ refresh)

def memberSync (member : MemberInfo) (ovnLb : LoadBalancer) (poolKey : Str) : Nbctl Unit := do
  let row ← readLb ovnLb
  let memberInfo ← Prog.ofExcept (getMemberInfo member)
  match ← (memberSyncOn env member ovnLb poolKey row.externalIds memberInfo).attempt with
  | .error _ => pure ()
  | .ok _ =>
      match member.subnetId with
      | none => throw .keyError
      | some subnetId =>
          updateLbToLsAssociation env ovnLb { subnetId := some subnetId, isSync := true }
          match ← findRelatedLr env subnetId with
          | none => pure ()
          | some lr => syncLbToLrAssociation env ovnLb lr
          updateExternalIdsMemberStatus (some ovnLb) member.id (some NO_MONITOR)

/-- The members in the row under the pool's key. -/
def getMembersInOvnLb (externalIds : Dict Str Str) (poolKey : Str) :
    Except Exc (List MemberData) :=
  (poolItems ((externalIds.get? poolKey).getD [])).mapM fun m => do
    match ← extractMemberInfo m with
    | data :: _ => return data
    | [] => throw .indexError

end Objects

end OvnOctavia
