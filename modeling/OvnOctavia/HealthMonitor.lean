import OvnOctavia.Member

/-!
The health monitor requests, the events of monitored members, and the repair of
the health check rows. A monitor has one health check row for each address of
the load balancer; the monitors of a row are listed in its keys.
-/

namespace OvnOctavia

/-- The information of a health monitor request; a number is nothing where the
request leaves it unset. -/
structure HmInfo where
  id : Str
  poolId : Str
  interval : Option Nat
  timeout : Option Nat
  successCount : Option Nat
  failureCount : Option Nat
  adminStateUp : Bool
  deriving DecidableEq

section Rows

/-- `str(_)` of a number that may be unset. -/
def strCount (n : Option Nat) : Str := (n.map Str.ofNat).getD "None".toList

def hmOptions (info : HmInfo) : Dict Str Str :=
  (((Dict.single "interval".toList (strCount info.interval)).set
    "timeout".toList (strCount info.timeout)).set
    "success_count".toList (strCount info.successCount)).set
    "failure_count".toList (strCount info.failureCount)

/-- The options of an update, without those that are unset or zero. -/
def hmUpdateOptions (info : HmInfo) : Dict Str Str :=
  let setIf (d : Dict Str Str) (k : Str) : Option Nat → Dict Str Str
    | some (n + 1) => d.set k (Str.ofNat (n + 1))
    | _ => d
  setIf (setIf (setIf (setIf ∅ "interval".toList info.interval) "timeout".toList info.timeout)
    "success_count".toList info.successCount) "failure_count".toList info.failureCount

def loadHms (externalIds : Dict Str Str) : Except Exc (List Str) :=
  match externalIds.get? lbExtIdsHmsKey with
  | some (c :: t) =>
      match Json.loadsList (c :: t) with
      | some l => .ok l
      | none => .error .valueError
  | _ => .ok []

def setHms (lb : LoadBalancer) (hms : List Str) : Command :=
  .lbUpdate lb.uuid (.setExternalIds (.single lbExtIdsHmsKey (Json.dumpsList hms)))

/-- The floating IPs of a row as the health checks count them. -/
def lbhcFips (externalIds : Dict Str Str) : List Str :=
  (externalIds.get? lbExtIdsVipFipKey).toList ++
    match externalIds.get? lbExtIdsAdditVipFipKey with
    | some fips => fips.splitOn ','
    | none => []

def lbhcExternalIds (hmId poolKey vip : Str) : Dict Str Str :=
  ((Dict.single lbExtIdsHmKey hmId).set lbExtIdsHmPoolKey
    (poolKey.drop lbExtIdsPoolPrefix.length)).set lbExtIdsHmVip vip

/-- The `vip` column of a health check; empty without a listener port. -/
def lbhcVip (env : Env) (vip : Str) (vipPort : Option Str) : Except Exc Str :=
  (bracketVip env vip).map fun vip =>
    match vipPort with
    | some (c :: port) => addressPort vip (c :: port)
    | _ => []

def lookupLbhcsByHmId (nb : Nb) (hmId : Str) : List HealthCheck :=
  nb.healthChecks.filter fun hc => hc.externalIds.get? lbExtIdsHmKey = some hmId

def findOvnLbOfHm (nb : Nb) (hmId : Str) : Option LoadBalancer :=
  nb.loadBalancers.find? fun lb =>
    (lb.externalIds.get? lbExtIdsHmsKey).any (Str.contains hmId)

def findOvnLbFromHmId (hmId : Str) : Nbctl (List HealthCheck × Option LoadBalancer) :=
  .read fun nb => pure (lookupLbhcsByHmId nb hmId, findOvnLbOfHm nb hmId)

end Rows

section Creating
variable (env : Env)

/-- The commands of `_add_lbhc`. The keys of the floating IPs' health checks are
one shared dictionary, so all of them carry the last floating IP. -/
def addLbhcCommands (row : LoadBalancer) (poolKey : Str) (info : HmInfo) :
    Except Exc (List Command) := do
  let vipPort := getPoolListenerPort row.externalIds poolKey
  let hms ← loadHms row.externalIds
  let vipCommands ← (lbVips row.externalIds).mapM fun vip => do
    let text ← lbhcVip env vip vipPort
    return [.hcCreate row.uuid text (hmOptions info) (lbhcExternalIds info.id poolKey vip),
      setHms row (hms ++ [info.id])]
  let fips := lbhcFips row.externalIds
  let fipCommands ← fips.mapM fun fip => do
    let text ← lbhcVip env fip vipPort
    return .hcCreate row.uuid text (hmOptions info)
      (lbhcExternalIds info.id poolKey (fips.getLastD []))
  return vipCommands.flatten ++ fipCommands

def hmStatusEntry (info : HmInfo) (operatingStatus provisioningStatus : Str) : StatusEntry :=
  ⟨some info.id, some provisioningStatus, some operatingStatus⟩

/-- `_add_lbhc`, with whether it went through. -/
def addLbhc (lb : LoadBalancer) (poolKey : Str) (info : HmInfo) : Nbctl Bool := do
  let row ← readLb lb
  if lbVips row.externalIds = [] then return false
  let added ← (do
    let commands ← Prog.ofExcept (addLbhcCommands env row poolKey info)
    Prog.transaction commands : Nbctl Unit).attempt
  return added.isOk

/-- The mapping and the status of each member; stops at one without a source
address, where the mappings made are removed. -/
def monitorMembers (lb : LoadBalancer) (poolKey : Str) : List MemberData → Nbctl Bool
  | [] => pure true
  | m :: ms => do
      match ← updateHmMember env lb poolKey m.ip false with
      | none =>
          cleanIpPortMappings env lb poolKey
          return false
      | some status =>
          updateExternalIdsMemberStatus (some lb) m.id (some status)
          monitorMembers lb poolKey ms

def readMembers (lb : LoadBalancer) (poolKey : Str) : Nbctl (List MemberData) := do
  let row ← readLb lb
  match row.externalIds.get? poolKey with
  | none => throw .keyError
  | some pool => Prog.ofExcept (extractMemberInfo pool)

def hmCreateOn (info : HmInfo) (poolKey : Str) (lb : LoadBalancer) : Nbctl Status := do
  let row ← readLb lb
  let listeners := getPoolListeners row.externalIds poolKey
  let members ← updateMemberStatuses lb info.poolId ACTIVE ONLINE
  let status : Status :=
    { loadbalancers := some [{ id := some lb.name, provisioningStatus := some ACTIVE }]
      pools := some [⟨some info.poolId, some ACTIVE, some ONLINE⟩]
      listeners := some (listeners.map fun l => ⟨some l, some ACTIVE, some ONLINE⟩)
      members := some members }
  let failed := { status with healthmonitors := some [hmStatusEntry info ERROR ERROR] }
  if !(← addLbhc env lb poolKey info) then return failed
  let members ← readMembers lb poolKey
  if !(← monitorMembers env lb poolKey members) then return failed
  let status ← currentOperatingStatuses env (some lb)
  return { status with
    healthmonitors := some [hmStatusEntry info (if info.adminStateUp then ONLINE else OFFLINE)
      ACTIVE] }

def hmCreate (info : HmInfo) : Nbctl Status := do
  let (poolKey, lb) ← findOvnLbByPoolId info.poolId
  let failed : Status := { healthmonitors := some [hmStatusEntry info NO_MONITOR ERROR] }
  match lb with
  | none => return failed
  | some lb =>
      let row ← readLb lb
      if row.externalIds.contains poolKey then hmCreateOn env info poolKey lb
      else return { failed with
        loadbalancers := some [{ id := some lb.name, provisioningStatus := some ACTIVE }]
        pools := some [{ id := some info.poolId, operatingStatus := some OFFLINE }] }

end Creating

section Changing
variable (env : Env)

def hmUpdate (info : HmInfo) : Nbctl Status := do
  let failed : Status := { healthmonitors := some [hmStatusEntry info ERROR ERROR] }
  let (lbhcs, found) ← findOvnLbFromHmId info.id
  if lbhcs = [] then return failed
  let lb ← match found with
    | some lb => pure (some lb)
    | none => do
        let (_, lb) ← findOvnLbByPoolId info.poolId
        pure lb
  match lb with
  | none => return failed
  | some lb =>
      executeCommands (lbhcs.map fun hc => .hcUpdate hc.uuid (.setOptions (hmUpdateOptions info)))
      return { loadbalancers := some [{ id := some lb.name, provisioningStatus := some ACTIVE }]
               pools := some [{ id := some info.poolId, provisioningStatus := some ACTIVE }]
               healthmonitors := some [hmStatusEntry info
                 (if info.adminStateUp then ONLINE else OFFLINE) ACTIVE] }

def hmDeleteOn (info : HmInfo) (lbhcs : List HealthCheck) (lb : LoadBalancer) :
    Nbctl Status := do
  let poolKey := getPoolKey info.poolId true
  let row ← readLb lb
  let (members, listeners) ← match row.externalIds.get? poolKey with
    | none => pure ([], [])
    | some pool => do
        let members ← Prog.ofExcept (extractMemberInfo pool)
        pure (members, getPoolListeners row.externalIds poolKey)
  let statuses ← updateMemberStatuses lb info.poolId ACTIVE NO_MONITOR
  let hms ← Prog.ofExcept (loadHms row.externalIds)
  let hms := hms.erase info.id
  cleanIpPortMappings env lb poolKey
  let remove : List Command := lbhcs.flatMap fun hc =>
    [.lbUpdate lb.uuid (.removeHealthCheck hc.uuid), .hcDestroy hc.uuid]
  executeCommands (remove ++
    [if hms = [] then .lbUpdate lb.uuid (.removeExternalId lbExtIdsHmsKey) else setHms lb hms])
  Prog.each (cleanUpHmPort env) (members.map MemberData.subnet).dedup
  return { loadbalancers := some [{ id := some lb.name, provisioningStatus := some ACTIVE }]
           pools := some [{ id := some info.poolId, provisioningStatus := some ACTIVE }]
           healthmonitors := some [hmStatusEntry info NO_MONITOR DELETED]
           members := if statuses = [] then none else some statuses
           listeners := some (activeListeners listeners) }

def hmDelete (info : HmInfo) : Nbctl Status := do
  match ← findOvnLbFromHmId info.id with
  | (hc :: lbhcs, some lb) => hmDeleteOn env info (hc :: lbhcs) lb
  | _ => return { healthmonitors := some [hmStatusEntry info NO_MONITOR DELETED] }

end Changing

section Events
variable (env : Env)

/-- A `Service_Monitor` row. -/
structure ServiceMonitor where
  ip : Str
  port : Nat
  srcIp : Str
  logicalPort : Str
  protocol : Protocol
  offline : Bool
  deriving DecidableEq

/-- A health event: an address and a port that went offline or came back, and
the rows that map the address. -/
structure HmEventInfo where
  ovnLbs : List LoadBalancer
  ip : Str
  port : Str
  offline : Bool
  deriving DecidableEq

/-- `sm_update_event_handler`: a deleted monitor counts as offline. -/
def smUpdateEventHandler (row : ServiceMonitor) (smDeleteEvent : Bool) :
    Nbctl (Option HmEventInfo) := do
  let source ← Prog.ofExcept (bracketVip env row.srcIp)
  let address ← Prog.ofExcept (bracketVip env row.ip)
  let nb ← Prog.get
  let lbs := nb.loadBalancers.filter fun lb =>
    lb.ipPortMappings.get? address = some (addressPort row.logicalPort source) &&
      lb.protocol = some row.protocol
  return if lbs = [] then none else
    some { ovnLbs := lbs, ip := row.ip, port := Str.ofNat row.port
           offline := row.offline || smDeleteEvent }

/-- The id in the first item of a pool value that contains the address and the
port, once some member of the pool has both. -/
def eventMemberIn (ip port value : Str) : Except Exc (Option Str) := do
  let members ← extractMemberInfo value
  if members.any fun m => m.ip = ip && m.port = port then
    match (poolItems value).filter fun mb => Str.contains ip mb && Str.contains port mb with
    | mb :: _ => (memberIdOf mb).map some
    | [] => .error .indexError
  else return none

/-- The member of an event, in the first pool key that has it. -/
def findEventMember (ip port : Str) : List (Str × Str) → Except Exc (Option Str)
  | [] => .ok none
  | (k, v) :: bs =>
      if !hasPoolPrefix k then findEventMember ip port bs else do
        match ← eventMemberIn ip port v with
        | some (c :: id) => return some (c :: id)
        | _ => findEventMember ip port bs

def hmUpdateEventOn (info : HmEventInfo) (lb : LoadBalancer) : Nbctl (Option Status) := do
  let row ← readLb lb
  match ← Prog.ofExcept (findEventMember info.ip info.port row.externalIds.items) with
  | none => return none
  | some memberId =>
      updateExternalIdsMemberStatus (some lb) memberId
        (some (if info.offline then ERROR else ONLINE))
      let status ← currentOperatingStatuses env (some lb)
      return some status

def Status.merge (a b : Status) : Status :=
  let both (x y : Option (List StatusEntry)) : Option (List StatusEntry) :=
    match x, y with
    | none, none => none
    | x, y => some (x.getD [] ++ y.getD [])
  { loadbalancers := both a.loadbalancers b.loadbalancers
    listeners := both a.listeners b.listeners
    pools := both a.pools b.pools
    members := both a.members b.members
    healthmonitors := both a.healthmonitors b.healthmonitors }

def hmUpdateEvent (info : HmEventInfo) : Nbctl (Option Status) := do
  let statuses ← Prog.mapEach (hmUpdateEventOn env info) info.ovnLbs
  match statuses.filterMap id with
  | [] => return none
  | s :: ss => return some (ss.foldl Status.merge s)

end Events

section Syncing
variable (env : Env)

/-- `_sync_lbhc` of one address on the health checks of the monitor. For a
floating IP the keys are compared with those of the last VIP. -/
def syncLbhcAddress (lbhcs : List HealthCheck) (row : LoadBalancer) (info : HmInfo)
    (hms : List Str) (text : Str) (compared written : Dict Str Str) (listed : Bool) :
    List Command :=
  let list : List Command :=
    if listed && !hms.contains info.id then [setHms row (hms ++ [info.id])] else []
  let update (hc : HealthCheck) : List Command :=
    (if hc.vip ≠ text then [.hcUpdate hc.uuid (.setVip text)] else []) ++
    (if !hc.options.same (hmOptions info) then [.hcUpdate hc.uuid (.setOptions (hmOptions info))]
      else []) ++
    (if !hc.externalIds.same compared then [.hcUpdate hc.uuid (.setExternalIds written)] else [])
  match lbhcs with
  | [] => .hcCreate row.uuid text (hmOptions info) written :: list
  | lbhcs => lbhcs.flatMap update ++ list

def syncLbhcCommands (lbhcs : List HealthCheck) (row : LoadBalancer) (poolKey : Str)
    (info : HmInfo) : Except Exc (List Command) := do
  let vips := lbVips row.externalIds
  let vipPort := getPoolListenerPort row.externalIds poolKey
  let hms ← loadHms row.externalIds
  let keys := lbhcExternalIds info.id poolKey
  let vipCommands ← vips.mapM fun vip => do
    let text ← lbhcVip env vip vipPort
    return syncLbhcAddress lbhcs row info hms text (keys vip) (keys vip) true
  let fips := lbhcFips row.externalIds
  let fipCommands ← fips.mapM fun fip => do
    let text ← lbhcVip env fip vipPort
    return syncLbhcAddress lbhcs row info hms text (keys (vips.getLastD []))
      (keys (fips.getLastD [])) false
  return vipCommands.flatten ++ fipCommands.flatten

/-- `_sync_lbhc`; the nested transactions join the outer one. -/
def syncLbhc (lb : LoadBalancer) (poolKey : Str) (info : HmInfo) : Nbctl Unit := do
  let row ← readLb lb
  if lbVips row.externalIds = [] then throw .driverError
  let nb ← Prog.get
  let commands ← Prog.ofExcept
    (syncLbhcCommands env (lookupLbhcsByHmId nb info.id) row poolKey info)
  Prog.transaction commands

def hmSync (info : HmInfo) (poolKey : Str) : Nbctl Unit := do
  match ← findOvnLbFromHmId info.id with
  | ([], _) =>
      let _ ← hmCreate env info
  | (_ :: _, none) => throw .attributeError
  | (_ :: _, some lb) =>
      let _ ← updateMemberStatuses lb info.poolId ACTIVE ONLINE
      let _ ← (syncLbhc env lb poolKey info).attempt
      let members ← readMembers lb poolKey
      let _ ← monitorMembers env lb poolKey members

/-- The purge of one row: its health checks that no listed monitor has. -/
def hmPurgeRow (fetched : List Nat) (lb : LoadBalancer) : Nbctl Unit := do
  let row ← readLb lb
  Prog.each (fun hc =>
    if fetched.contains hc then pure () else
      (executeCommands [.lbUpdate lb.uuid (.removeHealthCheck hc), .hcDestroy hc]).tryCatch
        fun e => if e = .rowNotFound then pure () else throw e) row.healthCheck

def hmPurgeRows : List Nat → List LoadBalancer → Nbctl Unit
  | _, [] => pure ()
  | fetched, lb :: lbs => do
      let row ← readLb lb
      let hms ← Prog.ofExcept (loadHms row.externalIds)
      let nb ← Prog.get
      let fetched := fetched ++ hms.flatMap fun hm => (lookupLbhcsByHmId nb hm).map HealthCheck.uuid
      hmPurgeRow fetched lb
      hmPurgeRows fetched lbs

def hmPurge (lbId : Str) : Nbctl Unit := do
  match ← (findOvnLbs lbId).attempt with
  | .ok lbs => hmPurgeRows [] lbs
  | .error .rowNotFound => pure ()
  | .error e => throw e

end Syncing

end OvnOctavia
