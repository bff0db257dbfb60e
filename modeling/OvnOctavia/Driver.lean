import OvnOctavia.Sync

/-!
The provider driver: Octavia objects turned into requests, and the sync of a
whole load balancer with its rows. A field of an object is nothing while it is
unset; of an update, the outer option says whether the field is set.
-/

namespace OvnOctavia

namespace Octavia

structure Member where
  memberId : Str
  address : Str
  protocolPort : Nat
  poolId : Str
  subnetId : Option Str := none
  adminStateUp : Option Bool := none
  /-- Whether a monitor address or port is set. -/
  monitorOptions : Bool := false
  deriving DecidableEq

structure HealthMonitor where
  healthmonitorId : Str
  poolId : Str
  /-- Whether the type is among `SUPPORTED_HEALTH_MONITOR_TYPES`. -/
  typeSupported : Bool := true
  delay : Option Nat := none
  timeout : Option Nat := none
  maxRetries : Option Nat := none
  maxRetriesDown : Option Nat := none
  adminStateUp : Option Bool := none
  deriving DecidableEq

/-- The protocol is nothing for one the provider does not support. -/
structure Pool where
  poolId : Str
  loadbalancerId : Str
  protocol : Option Protocol
  lbAlgorithm : Option LbAlgorithm
  listenerId : Option Str := none
  adminStateUp : Option Bool := none
  sessionPersistence : Option (Option Persistence) := none
  /-- Whether a session persistence is of type `SOURCE_IP`. -/
  persistenceSupported : Bool := true
  members : Option (List Member) := none
  healthmonitor : Option HealthMonitor := none
  deriving DecidableEq

structure Listener where
  listenerId : Str
  loadbalancerId : Str
  protocol : Option Protocol
  protocolPort : Nat
  defaultPoolId : Option Str := none
  adminStateUp : Option Bool := none
  allowedCidrs : Bool := false
  deriving DecidableEq

structure LoadBalancer where
  loadbalancerId : Str
  vipAddress : Option Str
  vipNetworkId : Option Str := none
  vipSubnetId : Option Str := none
  adminStateUp : Option Bool := none
  additionalVips : List AdditionalVip := []
  listeners : Option (List Listener) := none
  pools : Option (List Pool) := none
  deriving DecidableEq

end Octavia

section Requests
variable (env : Env)

def checkForSupportedProtocols : Option Protocol → Except Exc Protocol
  | some p => .ok p
  | none => .error .unsupportedOptionError

def checkForSupportedAlgorithms (a : Option LbAlgorithm) : Except Exc Unit :=
  if a = some .sourceIpPort then .ok () else .error .unsupportedOptionError

/-- The text of the refusal reads `session.type` of a dict, which raises. -/
def checkForSupportedSessionPersistence (p : Option (Option Persistence)) (supported : Bool) :
    Except Exc Unit :=
  match p with
  | some (some _) => if supported then .ok () else .error .attributeError
  | _ => .ok ()

def checkForAllowedCidrs (allowedCidrs : Bool) : Except Exc Unit :=
  if allowedCidrs then .error .unsupportedOptionError else .ok ()

def getLoadbalancerRequestInfo (lb : Octavia.LoadBalancer) : LoadBalancerInfo :=
  { id := lb.loadbalancerId, vipAddress := lb.vipAddress, vipNetworkId := lb.vipNetworkId
    adminStateUp := some (lb.adminStateUp.getD true), additionalVips := lb.additionalVips }

def getListenerRequestInfo (listener : Octavia.Listener) : Except Exc ListenerInfo := do
  let protocol ← checkForSupportedProtocols listener.protocol
  checkForAllowedCidrs listener.allowedCidrs
  return { id := listener.listenerId, loadbalancerId := listener.loadbalancerId, protocol
           protocolPort := listener.protocolPort, defaultPoolId := some listener.defaultPoolId
           adminStateUp := some (listener.adminStateUp.getD true) }

def getPoolRequestInfo (pool : Octavia.Pool) : Except Exc PoolInfo := do
  let protocol ← checkForSupportedProtocols pool.protocol
  checkForSupportedAlgorithms pool.lbAlgorithm
  checkForSupportedSessionPersistence pool.sessionPersistence pool.persistenceSupported
  return { id := pool.poolId, loadbalancerId := pool.loadbalancerId, protocol
           lbAlgorithm := pool.lbAlgorithm, listenerId := pool.listenerId
           adminStateUp := some (pool.adminStateUp.getD true)
           sessionPersistence := pool.sessionPersistence }

def checkMemberMonitorOptions (member : Octavia.Member) : Except Exc Unit :=
  if member.monitorOptions then .error .unsupportedOptionError else .ok ()

/-- Whether one of the VIPs is of another version than the first; stops there. -/
def vipsMixed (first : IpVersion) : List Str → Except Exc Bool
  | [] => .ok false
  | vip :: vips =>
      if vip = [] then vipsMixed first vips else do
        if (← env.version vip) ≠ first then return true
        vipsMixed first vips

def ipVersionDiffersOn (externalIds : Dict Str Str) (address : Str) : Except Exc Bool := do
  match externalIds.get? lbExtIdsVipKey with
  | none => .error .addrFormatError
  | some vip =>
      let first ← env.version vip
      if ← vipsMixed env first (lbVips externalIds) then return false
      return first ≠ (← env.version address)

/-- `_ip_version_differs`; a pool without a row is no obstacle. -/
def ipVersionDiffers (poolId address : Str) : Nbctl Bool := do
  match ← findOvnLbByPoolId poolId with
  | (_, none) => return false
  | (_, some lb) => Prog.ofExcept (ipVersionDiffersOn env lb.externalIds address)

/-- `_get_subnet_from_pool`: the VIP subnet of the pool's load balancer. -/
def getSubnetFromPool (poolId : Str) : Except Exc (Option (Str × Str)) :=
  match (env.getPool poolId).bind fun pool =>
      (env.getLoadbalancer pool.loadbalancerId).bind ProviderLoadBalancer.vipSubnetId with
  | some (c :: subnetId) => do
      env.neutronClient
      match env.getSubnet (c :: subnetId) with
      | .ok subnet => return some (c :: subnetId, subnet.cidr)
      | .error .resourceNotFound => return none
      | .error e => .error e
  | _ => .ok none

/-- The subnet of a member, its own or the VIP subnet the address is in. -/
def memberSubnet (poolId address : Str) (subnetId : Option Str) : Except Exc Str :=
  match subnetId with
  | some (c :: subnetId) => .ok (c :: subnetId)
  | _ => do
      match ← getSubnetFromPool env poolId with
      | none => .error .unsupportedOptionError
      | some (subnetId, cidr) =>
          if ← env.checkIpInSubnet address cidr then return subnetId
          .error .unsupportedOptionError

def memberInfoOf (member : Octavia.Member) (subnetId : Str) : MemberInfo :=
  { id := member.memberId, address := some member.address
    protocolPort := some (Str.ofNat member.protocolPort), poolId := some member.poolId
    subnetId := some subnetId }

/-- The checks of a member that is to be created, and its subnet. -/
def checkNewMember (member : Octavia.Member) : Nbctl Str := do
  Prog.ofExcept (checkMemberMonitorOptions member)
  if ← ipVersionDiffers env member.poolId member.address then
    throw .ipVersionsMixingNotSupportedError
  Prog.ofExcept (memberSubnet env member.poolId member.address member.subnetId)

/-- `_get_member_request_info`: the admin state is there only when it is up. -/
def getMemberRequestInfo (member : Octavia.Member) : Nbctl MemberInfo := do
  let subnetId ← checkNewMember env member
  return { memberInfoOf member subnetId with
    adminStateUp := if member.adminStateUp.getD true then some true else none }

def validateHmSupport (hm : Octavia.HealthMonitor) (create : Bool) : Except Exc Unit :=
  if !env.isHealthCheckSupported || (create && !hm.typeSupported) then
    .error .unsupportedOptionError
  else .ok ()

def hmInfoOf (hm : Octavia.HealthMonitor) (poolId : Str) : HmInfo :=
  { id := hm.healthmonitorId, poolId, interval := hm.delay, timeout := hm.timeout
    failureCount := hm.maxRetriesDown, successCount := hm.maxRetries
    adminStateUp := hm.adminStateUp.getD true }

def getHealthmonitorRequestInfo (hm : Octavia.HealthMonitor) : Except Exc HmInfo := do
  validateHmSupport env hm true
  return hmInfoOf hm hm.poolId

end Requests

namespace Driver
variable (env : Env)

-- Each call gives the requests it queues when it does not raise.

def listenerCreate (listener : Octavia.Listener) : Nbctl (List Request) := do
  let info ← Prog.ofExcept (getListenerRequestInfo listener)
  return [.listenerCreate info]

def listenerDelete (listener : Octavia.Listener) (protocol : Protocol) : List Request :=
  [.listenerDelete { id := listener.listenerId, loadbalancerId := listener.loadbalancerId
                     protocol, protocolPort := listener.protocolPort }]

/-- An update of `old`: the new default pool and admin state, where they are set. -/
def listenerUpdate (old : Octavia.Listener) (protocol : Protocol) (allowedCidrs : Bool)
    (defaultPoolId : Option (Option Str)) (adminStateUp : Option Bool) :
    Except Exc (List Request) := do
  checkForAllowedCidrs allowedCidrs
  return [.listenerUpdate { id := old.listenerId, loadbalancerId := old.loadbalancerId, protocol
                            protocolPort := old.protocolPort, defaultPoolId, adminStateUp }]

def healthMonitorCreate (hm : Octavia.HealthMonitor) : Except Exc (List Request) := do
  let info ← getHealthmonitorRequestInfo env hm
  return [.hmCreate info]

def healthMonitorUpdate (old new : Octavia.HealthMonitor) : Except Exc (List Request) := do
  validateHmSupport env new false
  return [.hmUpdate (hmInfoOf new old.poolId)]

def healthMonitorDelete (hm : Octavia.HealthMonitor) : List Request :=
  [.hmDelete (hmInfoOf hm hm.poolId)]

def memberCreate (member : Octavia.Member) : Nbctl (List Request) := do
  let subnetId ← checkNewMember env member
  let info := memberInfoOf member subnetId
  return [.memberCreate { info with adminStateUp := some (member.adminStateUp.getD true) },
    .handleMemberDvr info true]

def memberDelete (member : Octavia.Member) : Except Exc (List Request) := do
  let subnetId ← memberSubnet env member.poolId member.address member.subnetId
  let info := memberInfoOf member subnetId
  return [.memberDelete info, .handleMemberDvr info false]

/-- An update of `old` with the new address to check and the new admin state. -/
def memberUpdate (old : Octavia.Member) (monitorOptions : Bool) (newAddress : Option Str)
    (adminStateUp : Option Bool) : Nbctl (List Request) := do
  Prog.ofExcept (checkMemberMonitorOptions { old with monitorOptions })
  match newAddress with
  | some (c :: address) =>
      if ← ipVersionDiffers env old.poolId (c :: address) then
        throw .ipVersionsMixingNotSupportedError
  | _ => pure ()
  return [.memberUpdate { id := old.memberId, address := some old.address
                          protocolPort := some (Str.ofNat old.protocolPort)
                          poolId := some old.poolId, adminStateUp }]

/-- The checks of a member of a batch, and its subnet. The VIP subnet, which a batch
looks up once, is what the lookup gives each member. -/
def checkBatchMember (poolId : Str) (member : Octavia.Member) : Nbctl Str := do
  Prog.ofExcept (checkMemberMonitorOptions member)
  if member.address ≠ [] then
    if ← ipVersionDiffers env member.poolId member.address then
      throw .ipVersionsMixingNotSupportedError
  Prog.ofExcept (memberSubnet env poolId member.address member.subnetId)

/-- The members of a batch: their requests, and the entries none of them keeps. -/
def batchRequests (poolId : Str) (existingMembers : List Str) :
    List Octavia.Member → List Str → Nbctl (List Request × List Str)
  | [], membersToDelete => pure ([], membersToDelete)
  | member :: members, membersToDelete => do
      let subnetId ← checkBatchMember env poolId member
      let info := { memberInfoOf member subnetId with
        adminStateUp := some (member.adminStateUp.getD true) }
      let memberInfo :=
        memberText member.memberId member.address (Str.ofNat member.protocolPort) subnetId
      if memberInfo ∉ existingMembers then
        let (requests, rest) ← batchRequests poolId existingMembers members membersToDelete
        return (.memberCreate info :: requests, rest)
      else if memberInfo ∉ membersToDelete then throw .valueError
      else
        let (requests, rest) ←
          batchRequests poolId existingMembers members (membersToDelete.erase memberInfo)
        return (.memberUpdate info :: requests, rest)

/-- The requests of an entry that is left out; a subnet only from an entry of four parts. -/
def batchDelete (poolId member : Str) : Except Exc (List Request) := do
  match ← extractMemberInfo member with
  | [] => .error .indexError
  | m :: _ =>
      let subnetId := if (member.splitOn '_').length = 4 then some m.subnet else none
      let info : MemberInfo :=
        { id := ← memberIdOf member, address := some m.ip, protocolPort := some m.port
          poolId := some poolId, subnetId }
      return [.memberDelete info,
        .handleMemberDvr
          { id := m.id, address := some m.ip, poolId := some poolId, subnetId } false]

def memberBatchUpdate (poolId : Str) (members : List Octavia.Member) : Nbctl (List Request) := do
  match ← findOvnLbByPoolId poolId with
  | (_, none) => throw .attributeError
  | (poolKey, some lb) =>
      match lb.externalIds.get? poolKey with
      | none => throw .keyError
      | some pool =>
          let (requests, membersToDelete) ←
            batchRequests env poolId (poolItems pool) members (poolItems pool)
          let deleted ← Prog.ofExcept (membersToDelete.mapM (batchDelete poolId))
          return requests ++ deleted.flatten

def poolCreate (pool : Octavia.Pool) : Nbctl (List Request) := do
  let info ← Prog.ofExcept (getPoolRequestInfo pool)
  match pool.healthmonitor with
  | none => return [.poolCreate info]
  | some hm =>
      let hm ← Prog.ofExcept (healthMonitorCreate env hm)
      return .poolCreate info :: hm

def poolDelete (pool : Octavia.Pool) (protocol : Protocol) : Except Exc (List Request) := do
  let hm : List Request := match pool.healthmonitor with
    | some hm => healthMonitorDelete hm
    | none => []
  match pool.members with
  | none => .error .typeError
  | some members =>
      let members ← members.mapM (memberDelete env)
      return hm ++ members.flatten ++
        [.poolDelete { id := pool.poolId, loadbalancerId := pool.loadbalancerId, protocol }]

def poolUpdate (old : Octavia.Pool) (protocol : Protocol) (adminStateUp : Option Bool)
    (sessionPersistence : Option (Option Persistence)) (persistenceSupported : Bool) :
    Except Exc (List Request) := do
  checkForSupportedSessionPersistence sessionPersistence persistenceSupported
  return [.poolUpdate { id := old.poolId, loadbalancerId := old.loadbalancerId, protocol
                        adminStateUp, sessionPersistence }]

def loadbalancerDelete (lbId : Str) (cascade : Bool) : List Request :=
  [.lbDelete { id := lbId, vipAddress := none, cascade }]

def loadbalancerUpdate (lbId : Str) (adminStateUp : Option Bool) : List Request :=
  [.lbUpdate { id := lbId, vipAddress := none, adminStateUp }]

/-- A member without a subnet gets the VIP subnet. -/
def withVipSubnet (lb : Octavia.LoadBalancer) (member : Octavia.Member) : Octavia.Member :=
  match member.subnetId with
  | some (_ :: _) => member
  | _ => { member with subnetId := lb.vipSubnetId }

def loadbalancerCreate (lb : Octavia.LoadBalancer) : Nbctl (List Request) := do
  let listeners ← Prog.mapEach listenerCreate (lb.listeners.getD [])
  let pools ← Prog.mapEach (fun pool : Octavia.Pool => do
    let requests ← poolCreate env pool
    match pool.members with
    | none => throw .typeError
    | some members =>
        let members ← Prog.mapEach (fun m => memberCreate env (withVipSubnet lb m)) members
        return requests ++ members.flatten) (lb.pools.getD [])
  return .lbCreate (getLoadbalancerRequestInfo lb) :: (listeners.flatten ++ pools.flatten)

end Driver

section Ensure
variable (env : Env)

/-- The status a sync of a missing load balancer collects: whole statuses where
the lists of a status have entries. -/
structure SyncStatus where
  base : Status
  listeners : Option (List Status) := none
  pools : Option (List Status) := none
  members : Option (List Status) := none
  healthmonitors : Option (List Status) := none
  deriving DecidableEq

/-- The lists in a nested status are no texts. -/
def Status.isText (s : Status) : Bool :=
  s.loadbalancers.isNone && s.listeners.isNone && s.pools.isNone && s.members.isNone &&
    s.healthmonitors.isNone

/-- `_delete_disabled_from_status` of a collected status. -/
def SyncStatus.deleteDisabled (s : SyncStatus) : Except Exc Status :=
  let nested := s.listeners.getD [] ++ s.pools.getD [] ++ s.members.getD [] ++
    s.healthmonitors.getD []
  let field : Option (List Status) → Option (List StatusEntry) := fun l => l.map fun _ => []
  if nested.all Status.isText then
    deleteDisabledFromStatus { s.base with
      listeners := field s.listeners, pools := field s.pools, members := field s.members
      healthmonitors := field s.healthmonitors }
  else .error .typeError

def ensureNewListeners (listeners : List Octavia.Listener) : Nbctl (List Status) :=
  Prog.mapEach (fun listener => do
    let info ← Prog.ofExcept (getListenerRequestInfo listener)
    listenerCreate env info) listeners

def ensureNewMembers (lb : Octavia.LoadBalancer) (members : List Octavia.Member) :
    Nbctl (List Status) :=
  Prog.mapEach (fun member => do
    let info ← getMemberRequestInfo env (Driver.withVipSubnet lb member)
    memberCreate env info) members

def ensureNewHm (hm : Octavia.HealthMonitor) : Nbctl (List Status) := do
  match ← findOvnLbFromHmId hm.healthmonitorId with
  | ([], none) =>
      let info ← Prog.ofExcept (getHealthmonitorRequestInfo env hm)
      let status ← hmCreate env info
      return [status]
  | _ => return []

/-- The pools of a missing load balancer; the list of the member statuses is
emptied for every member. -/
def ensureNewPools (lb : Octavia.LoadBalancer) (status : SyncStatus) :
    List Octavia.Pool → Nbctl SyncStatus
  | [] => pure status
  | pool :: pools => do
      let info ← Prog.ofExcept (getPoolRequestInfo pool)
      let statusPool ← poolCreate env info
      let status := { status with pools := some (status.pools.getD [] ++ [statusPool]) }
      match pool.members with
      | none => throw .typeError
      | some members =>
          let statusMembers ← ensureNewMembers env lb members
          let status := match statusMembers.getLast? with
            | some s => { status with members := some [s] }
            | none => status
          let status ← match pool.healthmonitor with
            | none => pure status
            | some hm => do
                let statusHm ← ensureNewHm env hm
                pure { status with healthmonitors := some statusHm }
          ensureNewPools lb status pools

/-- `_ensure_loadbalancer` of a load balancer without rows. -/
def ensureMissing (lb : Octavia.LoadBalancer) : Nbctl Status := do
  let base ← lbCreate env (getLoadbalancerRequestInfo lb) none
  let status : SyncStatus := { base }
  let status ← match lb.listeners with
    | none => pure status
    | some listeners => do
        let statuses ← ensureNewListeners env listeners
        pure { status with listeners := some statuses }
  let status ← match lb.pools with
    | none => pure status
    | some pools => ensureNewPools env lb { status with pools := some [] } pools
  Prog.ofExcept status.deleteDisabled

/-- The members of the row's pool that Octavia does not list are deleted. The
request lacks the pool. -/
def deleteExtraMembers (poolId : Str) (memberIds : List Str) (present : List MemberData) :
    Nbctl Unit :=
  Prog.each (fun m =>
    if memberIds.contains m.id then pure () else do
      let _ ← memberDelete env { id := m.id, subnetId := some m.subnet }
      handleMemberDvr env { id := m.id, address := some m.ip, poolId := some poolId
                            subnetId := some m.subnet } false) present

def ensureMembers (lb : Octavia.LoadBalancer) (ovnLb : LoadBalancer) (poolId poolKey : Str)
    (members : List Octavia.Member) : Nbctl Unit := do
  Prog.each (fun member => do
    let info ← getMemberRequestInfo env (Driver.withVipSubnet lb member)
    memberSync env info ovnLb poolKey) members
  let row ← readLb ovnLb
  let present ← Prog.ofExcept (getMembersInOvnLb row.externalIds poolKey)
  deleteExtraMembers env poolId (members.map Octavia.Member.memberId) present

def ensurePool (lb : Octavia.LoadBalancer) (ovnLb : LoadBalancer) (pool : Octavia.Pool) :
    Nbctl Unit := do
  let info ← Prog.ofExcept (getPoolRequestInfo pool)
  poolSync info ovnLb
  let poolKey := getPoolKey info.id (info.adminStateUp.getD true)
  match pool.members with
  | none => pure ()
  | some members => ensureMembers env lb ovnLb info.id poolKey members
  match pool.healthmonitor with
  | none => pure ()
  | some hm =>
      let hmInfo ← Prog.ofExcept (getHealthmonitorRequestInfo env hm)
      hmSync env hmInfo poolKey

def ensureListener (ovnLb : LoadBalancer) (listener : Octavia.Listener) : Nbctl Unit := do
  let info ← Prog.ofExcept (getListenerRequestInfo listener)
  listenerSync env info ovnLb

/-- `_ensure_loadbalancer` of one of the rows that were found. -/
def ensureRow (lb : Octavia.LoadBalancer) (ovnLb : LoadBalancer) : Nbctl Status := do
  lbSync env (getLoadbalancerRequestInfo lb) ovnLb
  Prog.each (ensureListener env ovnLb) (lb.listeners.getD [])
  Prog.each (ensurePool env lb ovnLb) (lb.pools.getD [])
  hmPurge lb.loadbalancerId
  let status ← currentOperatingStatuses env (some ovnLb)
  Prog.ofExcept (deleteDisabledFromStatus status)

/-- `_ensure_loadbalancer`, with the statuses it sends to Octavia. -/
def ensureLoadbalancer (lb : Octavia.LoadBalancer) : Nbctl (List Status) := do
  match ← (findOvnLbs lb.loadbalancerId).attempt with
  | .error .rowNotFound =>
      let status ← ensureMissing env lb
      return [status]
  | .error e => throw e
  | .ok ovnLbs => Prog.mapEach (ensureRow env lb) ovnLbs

end Ensure

end OvnOctavia
