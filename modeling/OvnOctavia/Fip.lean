import OvnOctavia.Deletion

/-!
The floating IPs of a load balancer. A floating IP on the port of the VIP or of
an additional VIP is kept in the keys of the row and gets entries of its own in
the traffic map and among the health checks.
-/

namespace OvnOctavia

inductive FipAction where
  | associate
  | disassociate
  | sync
  deriving DecidableEq

structure FipInfo where
  ovnLb : LoadBalancer
  vipFip : Str
  vipRelated : List Str
  additionalVipFip : Bool
  action : FipAction
  deriving DecidableEq

/-- The address a health check is for. -/
def getVipLbhc (lbhc : HealthCheck) : Str :=
  match lbhc.externalIds.get? lbExtIdsHmVip with
  | some (c :: vip) => c :: vip
  | _ => ((Str.rsplit ':' lbhc.vip).map Prod.fst).getD []

def checkLbhcVipFormat (vip : Str) : Bool :=
  match Str.rsplit ':' vip with
  | some (_, port) => port ≠ [] && port.all Char.isDigit
  | none => false

section Handling
variable (env : Env)

/-- The health check of a floating IP, a copy of that of an address it stands for. -/
def copyLbhc (lb : LoadBalancer) (fip : Str) (hc : HealthCheck) : Command :=
  .hcCreate lb.uuid
    (if checkLbhcVipFormat hc.vip then addressPort fip ((hc.vip.splitOn ':').getLastD []) else [])
    hc.options (hc.externalIds.set lbExtIdsHmVip fip)

/-- The key an associated floating IP changes, with its new value. -/
def associatedFip (info : FipInfo) (externalIds : Dict Str Str) : Except Exc (Str × Str) :=
  if info.additionalVipFip then
    match externalIds.get? lbExtIdsAdditVipFipKey with
    | some (c :: fips) => .ok (lbExtIdsAdditVipFipKey, (c :: fips) ++ ',' :: info.vipFip)
    | some [] => .error .attributeError
    | none => .ok (lbExtIdsAdditVipFipKey, info.vipFip)
  else .ok (lbExtIdsVipFipKey, info.vipFip)

def associateFip (info : FipInfo) (present : Dict Str Str) : Nbctl Unit := do
  let (key, value) ← Prog.ofExcept (associatedFip info present)
  let externalIds := present.set key value
  let isSync := info.action = .sync
  let row ← readLb info.ovnLb
  let lbhcs ← healthChecksOf info.ovnLb
  let needExtSet := !(isSync && row.externalIds.get? key = some value)
  let needHcSet := !(isSync && lbhcs.any fun hc => getVipLbhc hc = info.vipFip)
  let set : List Command :=
    if needExtSet then [.lbUpdate info.ovnLb.uuid (.setExternalIds (.single key value))] else []
  if needHcSet then
    Prog.each (fun hc => Prog.transaction [copyLbhc info.ovnLb info.vipFip hc])
      (lbhcs.filter fun hc => getVipLbhc hc ∈ info.vipRelated)
  let refresh ← refreshLbVips env info.ovnLb externalIds isSync
  executeCommands (set ++ refresh)

/-- The commands that drop a health check of a row, if there is one. -/
def dropCheckCommands (lb : Nat) : Option HealthCheck → List Command
  | some hc => [.lbUpdate lb (.removeHealthCheck hc.uuid), .hcDestroy hc.uuid]
  | none => []

def disassociateFip (info : FipInfo) (present : Dict Str Str) : Nbctl Unit := do
  let lb := info.ovnLb.uuid
  let additional := match present.get? lbExtIdsAdditVipFipKey with
    | some (c :: fips) => (c :: fips).splitOn ','
    | _ => []
  let rest := additional.erase info.vipFip
  -- a list that stays leaves the copy of the keys as it was
  let (externalIds, additionalCommands) : Dict Str Str × List Command :=
    if info.vipFip ∈ additional then
      if rest ≠ [] then
        (present, [.lbUpdate lb (.setExternalIds
          (.single lbExtIdsAdditVipFipKey (Str.join ',' rest)))])
      else (present.erase lbExtIdsAdditVipFipKey,
        [.lbUpdate lb (.removeExternalId lbExtIdsAdditVipFipKey)])
    else (present, [])
  let (externalIds, vipCommands) : Dict Str Str × List Command :=
    if externalIds.get? lbExtIdsVipFipKey = some info.vipFip then
      (externalIds.erase lbExtIdsVipFipKey, [.lbUpdate lb (.removeExternalId lbExtIdsVipFipKey)])
    else (externalIds, [])
  let lbhcs ← healthChecksOf info.ovnLb
  let hcCommands := dropCheckCommands lb (lbhcs.find? fun hc => getVipLbhc hc = info.vipFip)
  let refresh ← refreshLbVips env info.ovnLb externalIds false
  executeCommands (additionalCommands ++ vipCommands ++ hcCommands ++ refresh)

def handleVipFip (info : FipInfo) : Nbctl Unit := do
  let row ← readLb info.ovnLb
  match info.action with
  | .associate | .sync => associateFip env info row.externalIds
  | .disassociate => disassociateFip env info row.externalIds

end Handling

end OvnOctavia
