import OvnOctavia.Association
import OvnOctavia.Status

/-!
The rows of one Octavia load balancer, one for each protocol in use, which all
carry its id as their name: how they are found and created, and the update of
the load balancer. A load balancer without listeners and pools has a single row
without protocol.
-/

namespace OvnOctavia

inductive LbAlgorithm where
  | sourceIpPort
  | sourceIp
  deriving DecidableEq

/-- The information of a load balancer request; a field is nothing where the
dictionary lacks the key or holds `None`. -/
structure LoadBalancerInfo where
  id : Str
  vipAddress : Option Str
  vipPortId : Option Str := none
  vipNetworkId : Option Str := none
  adminStateUp : Option Bool := none
  additionalVips : List AdditionalVip := []
  vipFip : Option Str := none
  additionalVipFip : Option Str := none
  lrRef : Option Str := none
  lsRefs : Option Str := none
  lbAlgorithm : Option LbAlgorithm := none
  cascade : Bool := false
  deriving DecidableEq

section Finding

/-- `_find_ovn_lbs(lb_id)`. -/
def findOvnLbs (lbId : Str) : Nbctl (List LoadBalancer) := .read fun nb =>
  match nb.lbsNamed lbId with
  | [] => throw .rowNotFound
  | lbs => pure lbs

/-- The first of the rows with the protocol; a row without one raises. -/
def findProtocol (protocol : Protocol) : List LoadBalancer → Except Exc LoadBalancer
  | [] => .error .rowNotFound
  | lb :: lbs =>
      match lb.protocol with
      | none => .error .indexError
      | some p => if p = protocol then .ok lb else findProtocol protocol lbs

def selectOvnLb (protocol : Protocol) (lbs : List LoadBalancer) : Except Exc LoadBalancer :=
  match lbs with
  | [lb] => if lb.protocol = none then .ok lb else findProtocol protocol [lb]
  | lbs => findProtocol protocol lbs

/-- `_find_ovn_lbs(lb_id, protocol)`. -/
def findOvnLb (lbId : Str) (protocol : Protocol) : Nbctl LoadBalancer := .read fun nb =>
  Prog.ofExcept (selectOvnLb protocol (nb.lbsNamed lbId))

/-- The row of the protocol, or the first row when none is asked for. -/
def findOvnLbOrFirst (lbId : Str) : Option Protocol → Nbctl LoadBalancer
  | some p => findOvnLb lbId p
  | none => do
      match ← findOvnLbs lbId with
      | lb :: _ => return lb
      | [] => throw .indexError

def findOvnLbWithPoolKey (poolKey : Str) : Nbctl (Option LoadBalancer) := .read fun nb =>
  pure <| nb.loadBalancers.find? fun lb =>
    lb.externalIds.get? ovnDeviceOwnerExtIdKey ≠ some portForwardingPlugin &&
      lb.externalIds.contains poolKey

/-- The pool's key and row, under the enabled key first. -/
def findOvnLbByPoolId (poolId : Str) : Nbctl (Str × Option LoadBalancer) := do
  match ← findOvnLbWithPoolKey (getPoolKey poolId true) with
  | some lb => return (getPoolKey poolId true, some lb)
  | none =>
      let lb ← findOvnLbWithPoolKey (getPoolKey poolId false)
      return (getPoolKey poolId false, lb)

/-- `_clean_lb_if_empty`: without listeners and pools the only row loses its
protocol, one of several rows is deleted. -/
def cleanLbIfEmpty (ovnLb : LoadBalancer) (lbId : Str) (externalIds : Dict Str Str) :
    Nbctl (List Command × Bool) := .read fun nb => pure <|
  if isLbEmpty externalIds then
    match nb.lbsNamed lbId with
    | [] => ([], false)
    | [_] => ([.lbUpdate ovnLb.uuid (.setProtocol none)], false)
    | _ => ([.lbDel ovnLb.uuid], true)
  else ([], false)

end Finding

section Creating
variable (env : Env)

/-- The port of the address, by its id or among the ports of its network, and
the subnet of the address on it. -/
def getPortFromInfo (portId networkId address : Option Str) (subnetRequired : Bool) :
    Except Exc (Option Port × Option Subnet) :=
  let matching (p : Port) := p.fixedIps.find? fun ip => some ip.ipAddress = address
  let subnetOf (ip : FixedIp) : Except Exc (Option Subnet) :=
    if subnetRequired then (env.getSubnet ip.subnetId).map some else .ok none
  match portId, networkId, address with
  | some (c :: portId), _, _ => do
      let port ← env.getPort (c :: portId)
      match matching port with
      | some ip => return (some port, ← subnetOf ip)
      | none => return (some port, none)
  | _, some (_ :: _), some (_ :: _) => do
      let ports ← env.listPorts (networkId.getD [])
      ports.foldlM (fun found port =>
        match matching port with
        | some ip => do
            let subnet ← subnetOf ip
            return (some port, subnet.or found.2)
        | none => return found) (none, none)
  | _, _, _ => .ok (none, none)

/-- `delete_port`; a port that is already gone is no failure. -/
def deletePort (portId : Str) : Nbctl Unit := do
  Prog.execute [.portDelete portId]
  match env.deletePort portId with
  | .ok _ | .error .resourceNotFound => return ()
  | .error e => throw e

/-- The ports of a load balancer whose creation failed are deleted. -/
def deleteVipPorts (port : Option Port) (additionalPorts : List (Option Port)) : Nbctl Unit := do
  match port with
  | some p => (deletePort env p.id).tryCatch fun _ => pure ()
  | none => pure ()
  Prog.each (fun p : Option Port =>
    match p with
    | some p => (deletePort env p.id).tryCatch fun _ => pure ()
    | none => throw .attributeError) additionalPorts

def lbStatusOf (lbId provisioningStatus operatingStatus : Str) : Status :=
  { loadbalancers := some [⟨some lbId, some provisioningStatus, some operatingStatus⟩] }

/-- The Neutron ports of the VIP and of the additional VIPs; the ports found
before a failure come with it. -/
def vipPorts (info : LoadBalancerInfo) :
    (Option Port × Option Subnet × List (Option Port)) × Except Exc Unit :=
  match env.neutronClient with
  | .error e => ((none, none, []), .error e)
  | .ok _ =>
      match getPortFromInfo env info.vipPortId info.vipNetworkId info.vipAddress true with
      | .error e => ((none, none, []), .error e)
      | .ok (port, subnet) =>
          info.additionalVips.foldl (fun acc vip =>
            match acc.2 with
            | .error _ => acc
            | .ok _ =>
                match getPortFromInfo env (some vip.portId) vip.networkId (some vip.ipAddress)
                    false with
                | .ok (p, _) => ((acc.1.1, acc.1.2.1, acc.1.2.2 ++ [p]), .ok ())
                | .error e => (acc.1, .error e)) ((port, subnet, []), .ok ())

/-- `external_ids[k] = v` where `v` is there and not empty. -/
def setNonempty (k : Str) (v : Option Str) (externalIds : Dict Str Str) : Dict Str Str :=
  match v with
  | some (c :: v) => externalIds.set k (c :: v)
  | _ => externalIds

def addAdditionalVips (vips : List AdditionalVip) (externalIds : Dict Str Str) : Dict Str Str :=
  if vips = [] then externalIds else
    (externalIds.set lbExtIdsAdditVipKey
      (Str.join ',' (vips.map AdditionalVip.ipAddress))).set
      lbExtIdsAdditVipPortIdKey (Str.join ',' (vips.map AdditionalVip.portId))

def addVipKeys (info : LoadBalancerInfo) (externalIds : Dict Str Str) : Dict Str Str :=
  setNonempty lbExtIdsLrRefKey info.lrRef <|
    setNonempty lbExtIdsAdditVipFipKey info.additionalVipFip <|
      setNonempty lbExtIdsVipFipKey info.vipFip <|
        addAdditionalVips info.additionalVips externalIds

/-- The first keys of a new row, given the VIP address. -/
def baseExternalIds (vip vipPortId : Str) (adminStateUp : Bool) : Dict Str Str :=
  ((Dict.single lbExtIdsVipKey vip).set lbExtIdsVipPortIdKey vipPortId).set enabledKey
    (strBool adminStateUp)

def vipPortIdOf (info : LoadBalancerInfo) (port : Option Port) : Except Exc Str :=
  match info.vipPortId, port with
  | some (c :: id), _ => .ok (c :: id)
  | _, some p => .ok p.id
  | _, none => .error .attributeError

/-- `LB_SELECTION_FIELDS_MAP`; the column is a set, listed in order. -/
def getSelectionKeys : Option LbAlgorithm → List Str
  | some .sourceIp => ["ip_dst".toList, "ip_src".toList]
  | some .sourceIpPort | none =>
      ["ip_dst".toList, "ip_src".toList, "tp_dst".toList, "tp_src".toList]

def lsGet (name : Str) : Nbctl LogicalSwitch := .read fun nb =>
  match nb.switch? (.name name) with
  | some ls => pure ls
  | none => throw .rowNotFound

/-- The switch of the VIP, unless its network is a provider network. -/
def associateVipLs (ovnLb : LoadBalancer) (port : Port) (isSync : Bool) :
    Option Network → Nbctl Unit
  | none => throw .attributeError
  | some network =>
      match network.providerPhysicalNetwork with
      | some (_ :: _) => pure ()
      | _ =>
          let vipLs : LsAssociation :=
            { networkId := some port.networkId, additionalVips := true, isSync }
          updateLbToLsAssociation env ovnLb vipLs

/-- The router of the VIP subnet. -/
def associateVipLr (ovnLb : LoadBalancer) (ovnLs : LogicalSwitch) : Option Subnet → Nbctl Unit
  | none => throw .attributeError
  | some subnet => do
      let nb ← Prog.get
      match ← Prog.ofExcept (findLrOfLs env nb ovnLs subnet.gatewayIp) with
      | some lr => associateLr env ovnLb lr
      | none => pure ()

/-- The other switches counted on a row of the load balancer. -/
def associateCountedLs (ovnLb : LoadBalancer) (ovnLs : LogicalSwitch) (lsRefs : Option Str) :
    Nbctl Unit :=
  match lsRefs with
  | some (c :: refs) =>
      Prog.each (fun ls =>
        if ls = ovnLs.name then pure () else
          updateLbToLsAssociation env ovnLb { networkId := some (ovnUuid ls) })
        ((Json.loadsCounts (c :: refs)).getD ∅).keys
  | _ => pure ()

/-- The associations of a new row. -/
def associateNewLb (info : LoadBalancerInfo) (ovnLb : LoadBalancer) (port : Port)
    (subnet : Option Subnet) : Nbctl Unit := do
  let network ← Prog.ofExcept (env.getNetwork port.networkId)
  associateVipLs env ovnLb port false network
  let ovnLs ← lsGet (ovnName port.networkId)
  associateVipLr env ovnLb ovnLs subnet
  associateCountedLs env ovnLb ovnLs info.lsRefs

/-- The row of the load balancer as `lb_create` writes it, and its associations. -/
def createLbRow (info : LoadBalancerInfo) (protocol : Option Protocol) (externalIds : Dict Str Str)
    (port : Option Port) (subnet : Option Subnet) : Nbctl Unit := do
  let selectionFields :=
    if env.areSelectionFieldsSupported then getSelectionKeys info.lbAlgorithm else []
  Prog.transaction [.lbCreate info.id protocol externalIds selectionFields]
  let ovnLb ← findOvnLbOrFirst info.id protocol
  match port with
  | none => throw .attributeError
  | some port => associateNewLb env info ovnLb port subnet

def lbCreate (info : LoadBalancerInfo) (protocol : Option Protocol) : Nbctl Status := do
  let ((port, subnet, additionalPorts), found) := vipPorts env info
  match found with
  | .error _ =>
      deleteVipPorts env port additionalPorts
      return lbStatusOf info.id ERROR ERROR
  | .ok _ =>
      let vipPortId ← Prog.ofExcept (vipPortIdOf info port)
      match info.vipAddress, info.adminStateUp with
      | some vip, some up =>
          let externalIds := addVipKeys info (baseExternalIds vip vipPortId up)
          match ← (createLbRow env info protocol externalIds port subnet).attempt with
          | .ok _ => return lbStatusOf info.id ACTIVE (if up then ONLINE else OFFLINE)
          | .error _ =>
              deleteVipPorts env port additionalPorts
              return lbStatusOf info.id ERROR ERROR
      | none, some _ =>
          -- a row cannot be created with the value None
          deleteVipPorts env port additionalPorts
          return lbStatusOf info.id ERROR ERROR
      | _, none => throw .keyError

/-- The information for the row of a further protocol, copied from a row of the
same load balancer. -/
def copyLbInfo (lbId : Str) (first : LoadBalancer) (adminStateUp : Bool)
    (lbAlgorithm : Option LbAlgorithm) : LoadBalancerInfo :=
  { id := lbId
    vipAddress := first.externalIds.get? lbExtIdsVipKey
    vipPortId := first.externalIds.get? lbExtIdsVipPortIdKey
    adminStateUp := some adminStateUp
    additionalVips := ((env.getLoadbalancer lbId).map ProviderLoadBalancer.additionalVips).getD []
    vipFip := first.externalIds.get? lbExtIdsVipFipKey
    additionalVipFip := first.externalIds.get? lbExtIdsAdditVipFipKey
    lrRef := first.externalIds.get? lbExtIdsLrRefKey
    lsRefs := first.externalIds.get? lbExtIdsLsRefsKey
    lbAlgorithm }

/-- A row for the protocol: the one without protocol is used, or one is created. -/
def provideOvnLb (lbId : Str) (protocol : Protocol) (adminStateUp : Bool)
    (lbAlgorithm : Option LbAlgorithm) (ovnLbs : List LoadBalancer) : Nbctl Unit :=
  match ovnLbs.find? (·.protocol = none) with
  | some lb => Prog.transaction [.lbUpdate lb.uuid (.setProtocol (some protocol))]
  | none =>
      match ovnLbs with
      | first :: _ => do
          let _ ← lbCreate env (copyLbInfo env lbId first adminStateUp lbAlgorithm) (some protocol)
      | [] => pure ()

def getOrCreateOvnLb (lbId : Str) (protocol : Protocol) (adminStateUp : Bool)
    (lbAlgorithm : Option LbAlgorithm) : Nbctl LoadBalancer := do
  let ovnLbs ← findOvnLbs lbId
  match ovnLbs.find? (·.protocol = some protocol) with
  | some lb => return lb
  | none =>
      provideOvnLb env lbId protocol adminStateUp lbAlgorithm ovnLbs
      findOvnLb lbId protocol

end Creating

section Updating
variable (env : Env)

def lbUpdateRow (up : Bool) (ovnLb : LoadBalancer) : Nbctl Unit := do
  let row ← readLb ovnLb
  match row.externalIds.get? enabledKey with
  | none => throw .keyError
  | some enabled =>
      if enabled ≠ strBool up then
        let refresh ← refreshLbVips env ovnLb row.externalIds false
        executeCommands
          (.lbUpdate ovnLb.uuid (.setExternalIds (.single enabledKey (strBool up))) :: refresh)

def lbUpdate (info : LoadBalancerInfo) : Nbctl Status := do
  match info.adminStateUp with
  | none => return { loadbalancers := some [{ id := some info.id
                                              provisioningStatus := some ACTIVE }] }
  | some up =>
      let update : Nbctl Unit := do
        let ovnLbs ← findOvnLbs info.id
        Prog.each (lbUpdateRow env up) ovnLbs
      match ← update.attempt with
      | .ok _ => return lbStatusOf info.id ACTIVE (if up then ONLINE else OFFLINE)
      | .error _ => return lbStatusOf info.id ERROR ERROR

end Updating

end OvnOctavia
