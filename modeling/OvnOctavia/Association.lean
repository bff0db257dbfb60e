import OvnOctavia.Vips

/-!
The association of a load balancer with logical switches and routers. The
counts of the associations with switches and the names of the routers are kept
in the row. The commands of one association are computed from one view of the
database and committed in one transaction.
-/

namespace OvnOctavia

def ovnPortCidrExtIdKey : Str := "neutron:cidrs".toList
def ovnGwPortExtIdKey : Str := "neutron:gw_port_id".toList
def ovnNetworkNameExtIdKey : Str := "neutron:network_name".toList
def deviceOwnerRouterIntf : Str := "network:router_interface".toList

section Topology
variable (env : Env)

/-- The names of the switches behind the router's own ports of the given version. -/
def findLsForLr (router : LogicalRouter) (ipVersion : IpVersion) : Except Exc (List Str) :=
  router.ports.foldlM (fun ls port =>
    if port.gatewayChassis then .ok ls else
      match port.networks with
      | [] => .error .indexError
      | network :: _ => do
          if (← env.version network) ≠ ipVersion then return ls
          match port.externalIds.get? ovnNetworkNameExtIdKey with
          | some (c :: name) => return ls ++ [ovnName (c :: name)]
          | _ => return ls) []

/-- Whether the gateway is an address of the router port, given its addresses. -/
def hasGateway (gateway : Str) : List Str → Except Exc Bool
  | [] => .ok false
  | cidr :: cidrs => do
      if ← env.sameIp cidr gateway then return true
      hasGateway gateway cidrs

def findRouterPort (subnetGatewayIp : Option Str) :
    List LogicalSwitchPort → Except Exc (Option LogicalSwitchPort)
  | [] => .ok none
  | port :: ports =>
      if port.type = "router".toList ∧
          port.externalIds.get? ovnDeviceOwnerExtIdKey = some deviceOwnerRouterIntf then
        match subnetGatewayIp with
        | some (c :: gateway) =>
            match port.externalIds.get? ovnPortCidrExtIdKey with
            | none => .error .keyError
            | some cidrs => do
                if ← hasGateway env (c :: gateway) ((cidrs.splitOn ' ').filter (· ≠ [])) then
                  return some port
                findRouterPort subnetGatewayIp ports
        | _ => .ok (some port)
      else findRouterPort subnetGatewayIp ports

def ovnLrouterPortName (id : Option Str) : Str := "lrp-".toList ++ id.getD "None".toList

def findLrOfLs (nb : Nb) (ovnLs : LogicalSwitch) (subnetGatewayIp : Option Str) :
    Except Exc (Option LogicalRouter) := do
  match ← findRouterPort env subnetGatewayIp ovnLs.ports with
  | none => return none
  | some port =>
      match port.options.get? "router-port".toList with
      | some (c :: name) =>
          return nb.routers.find? fun lr =>
            lr.ports.any (·.name = c :: name) ||
              ovnLrouterPortName (lr.externalIds.get? ovnGwPortExtIdKey) = c :: name
      | _ => return none

end Topology

section Switches

structure LsAssociation where
  networkId : Option Str := none
  subnetId : Option Str := none
  associate : Bool := true
  updateLsRef : Bool := true
  additionalVips : Bool := false
  isSync : Bool := false

/-- The association counts of a row; an unreadable text counts as no counts. -/
def loadLsRefs (externalIds : Dict Str Str) : Dict Str Nat :=
  match externalIds.get? lbExtIdsLsRefsKey with
  | some (c :: t) => (Json.loadsCounts (c :: t)).getD ∅
  | _ => ∅

def setLsRefs (lb : LoadBalancer) (lsRefs : Dict Str Nat) : Command :=
  .lbUpdate lb.uuid (.setExternalIds (.single lbExtIdsLsRefsKey (Json.dumpsCounts lsRefs)))

/-- `is_sync`: the counts are written only when another set of switches is counted. -/
def updateLsRefs (lb : LoadBalancer) (a : LsAssociation) (lsRefs : Dict Str Nat) :
    Except Exc (List Command) :=
  if !a.updateLsRef then .ok [] else
    if !a.isSync then .ok [setLsRefs lb lsRefs] else
      if lb.externalIds.get? lbExtIdsLsRefsKey = some [] then .error .attributeError else
        let present := (loadLsRefs lb.externalIds).keys
        if present.all (· ∈ lsRefs.keys) && lsRefs.keys.all (· ∈ present) then .ok []
        else .ok [setLsRefs lb lsRefs]

/-- The name of the switch to associate; nothing to do without Neutron. -/
def lsNameOf (env : Env) (a : LsAssociation) : Except Exc (Option (Option Str)) :=
  match a.networkId, a.subnetId with
  | some (c :: networkId), _ => .ok (some (some (ovnName (c :: networkId))))
  | _, some (c :: subnetId) =>
      match env.neutronClient with
      | .error .driverError => .ok none
      | .error e => .error e
      | .ok _ =>
          match env.getSubnet (c :: subnetId) with
          | .ok subnet => .ok (some (some (ovnName subnet.networkId)))
          | .error .resourceNotFound => .ok (some none)
          | .error e => .error e
  | _, _ => .ok none

/-- The commands for a switch name and the switch found under it; `lb` is the
row as read. -/
def lsCommands (lb : LoadBalancer) (a : LsAssociation) (lsName : Option Str)
    (ovnLs : Option LogicalSwitch) : Except Exc (List Command) :=
  let lsRefs := loadLsRefs lb.externalIds
  match lsName, ovnLs with
  | some name, some ls =>
      if a.isSync && ls.loadBalancer.contains lb.uuid then
        updateLsRefs lb a (if lsRefs.contains name then lsRefs else lsRefs.set name 1)
      else if a.associate then
        match lsRefs.get? name with
        | some n => updateLsRefs lb a (lsRefs.set name (n + 1))
        | none =>
            let additional :=
              if a.additionalVips then
                match lb.externalIds.get? lbExtIdsAdditVipKey with
                | some (c :: vips) => ((c :: vips).splitOn ',').length
                | _ => 0
              else 0
            (updateLsRefs lb a (lsRefs.set name (1 + additional))).map
              (.lsLbAdd (.uuid ls.uuid) lb.uuid :: ·)
      else
        match lsRefs.get? name with
        | none => .ok [.lsLbDel (.uuid ls.uuid) lb.uuid true]
        | some n =>
            if n = 1 then
              (updateLsRefs lb a (lsRefs.erase name)).map
                (.lsLbDel (.uuid ls.uuid) lb.uuid true :: ·)
            else updateLsRefs lb a (lsRefs.set name (n - 1))
  | some name, none =>
      if a.associate then .ok [] else
        match lsRefs.get? name with
        | none => .ok []
        | some n =>
            if n = 1 then updateLsRefs lb a (lsRefs.erase name)
            else updateLsRefs lb a (lsRefs.set name (n - 1))
  | none, _ => .ok []

def getLbToLsAssociationCommands (env : Env) (nb : Nb) (lb : LoadBalancer) (a : LsAssociation) :
    Except Exc (List Command) := do
  match ← lsNameOf env a with
  | none => return []
  | some lsName => lsCommands (lb.live nb) a lsName (lsName.bind fun n => nb.switch? (.name n))

def updateLbToLsAssociation (env : Env) (lb : LoadBalancer) (a : LsAssociation) : Nbctl Unit :=
  Prog.retry (· = .rowNotFound) (do
    let nb ← Prog.get
    let commands ← Prog.ofExcept (getLbToLsAssociationCommands env nb lb a)
    executeCommands commands) 2

end Switches

section Routers
variable (env : Env)

/-- The characters that `str.strip` takes off. -/
def isBlank (c : Char) : Bool :=
  let n := c.toNat
  9 ≤ n && n ≤ 13 || 28 ≤ n && n ≤ 32 || 0x2000 ≤ n && n ≤ 0x200A ||
    [0x85, 0xA0, 0x1680, 0x2028, 0x2029, 0x202F, 0x205F, 0x3000].contains n

def strip (s : Str) : Str := ((s.dropWhile isBlank).reverse.dropWhile isBlank).reverse

def vipVersion (lb : LoadBalancer) : Except Exc IpVersion :=
  match lb.externalIds.get? lbExtIdsVipKey with
  | some vip => env.version vip
  | none => .error .addrFormatError

def delLbToLrAssociation (lb : LoadBalancer) (lr : LogicalRouter) (lrRef : Option Str) :
    Except Exc (List Command) := do
  let refCommands : List Command :=
    match lrRef with
    | some (c :: ref) =>
        let refs := (((c :: ref).splitOn ',').map strip).filter (· ≠ lr.name)
        [if refs ≠ [] then
            .lbUpdate lb.uuid (.setExternalIds (.single lbExtIdsLrRefKey (Str.join ',' refs)))
          else .lbUpdate lb.uuid (.removeExternalId lbExtIdsLrRefKey),
          .lrLbDel lr.uuid lb.uuid true]
    | _ => []
  let nets ← findLsForLr env lr (← vipVersion env lb)
  return refCommands ++ nets.map fun net => .lsLbDel (.name net) lb.uuid true

def addLbToLrAssociation (nb : Nb) (lb : LoadBalancer) (lr : LogicalRouter) (lrRef : Option Str)
    (isSync : Bool) : Except Exc (List Command) := do
  let lrCommands : List Command :=
    if isSync && lr.loadBalancer.contains lb.uuid then [] else [.lrLbAdd lr.uuid lb.uuid]
  let nets ← findLsForLr env lr (← vipVersion env lb)
  let missing := nets.filter fun net =>
    !(isSync && ((nb.switch? (.name net)).any fun ls => ls.loadBalancer.contains lb.uuid))
  let refCommands : List Command :=
    if Str.contains lr.name (lrRef.getD "None".toList) then [] else
      let ref := match lrRef with
        | some (c :: ref) => (c :: ref) ++ ',' :: lr.name
        | _ => lr.name
      [.lbUpdate lb.uuid (.setExternalIds (.single lbExtIdsLrRefKey ref))]
  return lrCommands ++ (missing.map fun net => .lsLbAdd (.name net) lb.uuid) ++ refCommands

def getLbToLrAssociationCommands (nb : Nb) (lb : LoadBalancer) (lr : LogicalRouter)
    (delete isSync : Bool) : Except Exc (List Command) :=
  let row := lb.live nb
  let router := (nb.router? lr.uuid).getD lr
  let lrRef := row.externalIds.get? lbExtIdsLrRefKey
  if delete then delLbToLrAssociation env row router lrRef
  else addLbToLrAssociation env nb row router lrRef isSync

def updateLbToLrAssociation (lb : LoadBalancer) (lr : LogicalRouter) (delete isSync : Bool) :
    Nbctl Unit :=
  Prog.retry (· = .rowNotFound) (do
    let nb ← Prog.get
    let commands ← Prog.ofExcept (getLbToLrAssociationCommands env nb lb lr delete isSync)
    executeCommands commands) 2

def Command.isLsLb : Command → Bool
  | .lsLbAdd .. | .lsLbDel .. => true
  | _ => false

def updateLbToLrAssociationByStep (lb : LoadBalancer) (lr : LogicalRouter)
    (delete isSync : Bool) : Nbctl Unit := do
  let nb ← Prog.get
  let commands ← Prog.ofExcept (getLbToLrAssociationCommands env nb lb lr delete isSync)
  Prog.each (fun command =>
    (Prog.transaction [command]).tryCatch fun e =>
      if e = .rowNotFound ∧ command.isLsLb then pure () else throw e) commands

/-- The association with a router, one command at a time when a switch is gone. -/
def associateLr (lb : LoadBalancer) (lr : LogicalRouter) : Nbctl Unit :=
  (updateLbToLrAssociation env lb lr false false).tryCatch fun e =>
    if e = .rowNotFound then updateLbToLrAssociationByStep env lb lr false false else throw e

def syncLbToLrAssociation (lb : LoadBalancer) (lr : LogicalRouter) : Nbctl Unit :=
  (updateLbToLrAssociation env lb lr false true).tryCatch fun e =>
    if e = .rowNotFound then
      (updateLbToLrAssociationByStep env lb lr false true).tryCatch fun _ => pure ()
    else throw e

/-- The load balancers of a switch that count it among their associations. -/
def findLbInLs (nb : Nb) (network : LogicalSwitch) : List Nat :=
  network.loadBalancer.filter fun u =>
    (nb.lb? u).any fun lb =>
      (lb.externalIds.get? lbExtIdsLsRefsKey).any (Str.contains network.name)

/-- `lb_delete_lrp_assoc`: an interface between a switch and a router is gone. -/
def lbDeleteLrpAssoc (network : LogicalSwitch) (router : LogicalRouter) : Nbctl Unit := do
  let nb ← Prog.get
  let network := (nb.switch? (.uuid network.uuid)).getD network
  let router := (nb.router? router.uuid).getD router
  let nwLb := findLbInLs nb network
  let rLb := router.loadBalancer.filter (· ∉ nwLb)
  Prog.each (fun lb =>
    (updateLbToLrAssociation env lb router true false).tryCatch fun e =>
      if e = .rowNotFound then updateLbToLrAssociationByStep env lb router true false
      else throw e) (nwLb.filterMap nb.lb?)
  let leave : LsAssociation :=
    { networkId := some (ovnUuid network.name), associate := false, updateLsRef := false }
  Prog.each (fun lb =>
    (updateLbToLsAssociation env lb leave).tryCatch fun e =>
      if e = .rowNotFound then pure () else throw e) (rLb.filterMap nb.lb?)

/-- `lb_create_lrp_assoc`: a switch and a router have got an interface. -/
def lbCreateLrpAssoc (network : LogicalSwitch) (router : LogicalRouter) (isGwPort : Bool) :
    Nbctl Unit := do
  let nb ← Prog.get
  let network := (nb.switch? (.uuid network.uuid)).getD network
  let router := (nb.router? router.uuid).getD router
  let networkLb := network.loadBalancer.filter (· ∉ router.loadBalancer)
  let routerLb := router.loadBalancer.filter (· ∉ network.loadBalancer)
  Prog.each (fun lb => associateLr env lb router) (networkLb.filterMap nb.lb?)
  let join : LsAssociation := { networkId := some (ovnUuid network.name), updateLsRef := false }
  if !isGwPort then
    Prog.each (fun lb =>
      (updateLbToLsAssociation env lb join).tryCatch fun e =>
        if e = .rowNotFound then pure () else throw e) (routerLb.filterMap nb.lb?)

end Routers

end OvnOctavia
