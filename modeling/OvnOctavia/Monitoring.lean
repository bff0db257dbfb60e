import OvnOctavia.Pool

/-!
What the member and the health monitor requests share: the status map of the
members, the port health checks are sent from, and the mapping of monitored
addresses to ports.
-/

namespace OvnOctavia

def ovnFipPortExtIdKey : Str := "neutron:fip_port_id".toList
def ovnFipExtIdKey : Str := "neutron:fip_id".toList
def lbHmPortPrefix : Str := "ovn-lb-hm-".toList

/-- `_find_member_status` of a row object. -/
def readMemberStatus (lb : LoadBalancer) (memberId : Str) : Nbctl Str := do
  let row ← readLb lb
  Prog.ofExcept (findMemberStatus row.externalIds memberId)

/-- The command that stores a status map; an empty map has no key. -/
def storeMemberStatuses (lb : LoadBalancer) (statuses : Dict Str Str) : Command :=
  if statuses.items = [] then .lbUpdate lb.uuid (.removeExternalId ovnMemberStatusKey)
  else .lbUpdate lb.uuid
    (.setExternalIds (.single ovnMemberStatusKey (Json.dumpsTexts statuses)))

/-- The status map with the status of one member, or without it. -/
def withStatus (statuses : Dict Str Str) (member : Str) : Option Str → Dict Str Str
  | none => statuses.erase member
  | some status => statuses.set member status

/-- `_update_external_ids_member_status`: without a status the member is dropped.
Failures of the commit are only logged. -/
def updateExternalIdsMemberStatus (lb : Option LoadBalancer) (member : Str)
    (status : Option Str) : Nbctl Unit :=
  match lb with
  | none => throw .attributeError
  | some lb => do
      let row ← readLb lb
      let statuses ← Prog.ofExcept (loadMemberStatuses row.externalIds)
      Prog.execute [storeMemberStatuses lb (withStatus statuses member status)]

/-- The same status for every member of the pool's enabled key. -/
def updateMemberStatuses (lb : LoadBalancer) (poolId provisioningStatus operatingStatus : Str) :
    Nbctl (List StatusEntry) := do
  let row ← readLb lb
  match row.externalIds.get? (getPoolKey poolId true) with
  | none => throw .typeError
  | some [] => return []
  | some (c :: members) =>
      Prog.mapEach (fun memInfo => do
        let id ← Prog.ofExcept (memberIdOf memInfo)
        updateExternalIdsMemberStatus (some lb) id (some operatingStatus)
        return (⟨some id, some provisioningStatus, some operatingStatus⟩ : StatusEntry))
        ((c :: members).splitOn ',')

section Ports
variable (env : Env)

def fixedIpOf (subnetId : Str) (port : Port) : Option Str :=
  (port.fixedIps.find? (·.subnetId = subnetId)).map FixedIp.ipAddress

/-- The addresses of the ports are tried in turn; a port without one in the
subnet is taken to use the last address seen. -/
def cleanUpHmPorts (subnetId : Str) (monitored : List Str) : Option Str → List Port → Nbctl Unit
  | _, [] => pure ()
  | seen, port :: ports =>
      let ips := (port.fixedIps.filter (·.subnetId = subnetId)).map FixedIp.ipAddress
      match ips.getLast?.or seen with
      | some (c :: ip) =>
          if monitored.any (Str.contains (c :: ip)) then pure () else do
            deletePort env port.id
            cleanUpHmPorts subnetId monitored (some (c :: ip)) ports
      | seen => cleanUpHmPorts subnetId monitored seen ports

def cleanUpHmPort (subnetId : Str) : Nbctl Unit := do
  Prog.ofExcept env.neutronClient
  let ports ← Prog.ofExcept (env.listPortsByName (lbHmPortPrefix ++ subnetId))
  let nb ← Prog.get
  let monitored := (nb.loadBalancers.filter (·.healthCheck ≠ [])).flatMap fun lb =>
    lb.ipPortMappings.items.map Prod.snd
  cleanUpHmPorts env subnetId monitored none ports

def ensureHmOvnPort (networkId subnetId : Str) : Nbctl (Option Port) := do
  Prog.ofExcept env.neutronClient
  match ← Prog.ofExcept (env.findPort networkId (lbHmPortPrefix ++ subnetId)) with
  | some port => return some port
  | none =>
      match env.createHmPort networkId subnetId with
      | .ok port => return some port
      | .error .httpException =>
          cleanUpHmPort env subnetId
          return none
      | .error e => throw e

/-- The port of the member's switch that has the member's address. -/
def getMemberLsp (memberIp memberSubnetId : Str) : Nbctl (Option LogicalSwitchPort) := do
  Prog.ofExcept env.neutronClient
  match env.getSubnet memberSubnetId with
  | .error .resourceNotFound => return none
  | .error e => throw e
  | .ok subnet =>
      let nb ← Prog.get
      match nb.switch? (.name (ovnName subnet.networkId)) with
      | none => return none
      | some ls => return ls.ports.find? fun port =>
          (env.removeMacsFromLspAddresses port.addresses).contains memberIp

def updateIpPortMappings (lb : LoadBalancer) (backendIp portName srcIp : Str) (delete : Bool) :
    Nbctl Unit := do
  let version ← Prog.ofExcept (env.version backendIp)
  let text (ip : Str) := if version = .v6 then bracket ip else ip
  Prog.execute [.lbUpdate lb.uuid <|
    if delete then .removeIpPortMapping (text backendIp)
    else .setIpPortMapping (text backendIp) (addressPort portName (text srcIp))]

/-- The network of a port, from the name of its switch. -/
def networkOfLsp (lsp : LogicalSwitchPort) : Except Exc Str :=
  match lsp.externalIds.get? ovnNetworkNameExtIdKey with
  | none => .error .attributeError
  | some name =>
      match Str.after "neutron-".toList name with
      | none => .error .indexError
      | some rest => .ok (Str.before "neutron-".toList rest)

/-- The mapping of the member with the address; nothing when no source address
is to be had. -/
def updateHmMember (lb : LoadBalancer) (poolKey backendIp : Str) (delete : Bool) :
    Nbctl (Option Str) := do
  let row ← readLb lb
  match row.externalIds.get? poolKey with
  | none => throw .keyError
  | some pool =>
      let members ← Prog.ofExcept (extractMemberInfo pool)
      match members.find? (·.ip = backendIp) with
      | none => return some ERROR
      | some m =>
          match ← getMemberLsp env m.ip m.subnet with
          | none => return some ERROR
          | some lsp =>
              let networkId ← Prog.ofExcept (networkOfLsp lsp)
              match ← ensureHmOvnPort env networkId m.subnet with
              | none => return none
              | some port =>
                  match fixedIpOf m.subnet port with
                  | some (c :: srcIp) =>
                      updateIpPortMappings env lb backendIp lsp.name (c :: srcIp) delete
                      return some ONLINE
                  | _ => return none

/-- The mappings of the pool's members are removed, except for an address that
a member of another pool is monitored at. -/
def cleanIpPortMappings (lb : LoadBalancer) (poolKey : Str) : Nbctl Unit := do
  let row ← readLb lb
  match row.externalIds.get? poolKey with
  | none => throw .keyError
  | some pool =>
      let members ← Prog.ofExcept (extractMemberInfo pool)
      let others ← Prog.ofExcept <|
        (row.externalIds.items.filter fun b => hasPoolPrefix b.1 && b.1 ≠ poolKey).mapM fun b =>
          extractMemberInfo b.2
      let statuses ← Prog.ofExcept (loadMemberStatuses row.externalIds)
      Prog.each (fun m =>
        if others.flatten.any fun o =>
            o.ip = m.ip && statuses.get? o.id ≠ some NO_MONITOR then pure ()
        else updateIpPortMappings env lb m.ip [] [] true) members

end Ports

end OvnOctavia
