import OvnOctavia.Encoding

/-!
The traffic map of a load balancer row: for every address of the load balancer
and every enabled listener with a pool, the backends of the pool that are not
offline. The map is computed from one copy of `external_ids`; the member
statuses are those of the row.
-/

namespace OvnOctavia

/-- The backends of a traffic map entry, by the version of their addresses. -/
structure Backends where
  v4 : List Str
  v6 : List Str
  deriving DecidableEq

def isMemberOffline (rowExternalIds : Dict Str Str) (memberId : Str) : Except Exc Bool :=
  (findMemberStatus rowExternalIds memberId).map (· = OFFLINE)

def bracket (ip : Str) : Str := '[' :: (ip ++ [']'])

def addressPort (ip port : Str) : Str := ip ++ ':' :: port

section Frame
variable (env : Env) (rowExternalIds : Dict Str Str)

def addBackend (acc : Backends) (m : MemberData) : Except Exc Backends := do
  if ← isMemberOffline rowExternalIds m.id then return acc
  match ← env.version m.ip with
  | .v6 => return { acc with v6 := acc.v6 ++ [addressPort (bracket m.ip) m.port] }
  | .v4 => return { acc with v4 := acc.v4 ++ [addressPort m.ip m.port] }

def backendsOf (members : List MemberData) : Except Exc Backends :=
  members.foldlM (addBackend env rowExternalIds) ⟨[], []⟩

/-- The entry of `address`, written as `key`, for backends of version `v`. -/
def addEntry (address key vipPort : Str) (v : IpVersion) (ips : List Str) (acc : Dict Str Str) :
    Except Exc (Dict Str Str) :=
  if ips = [] then .ok acc else
    (env.version address).map fun w =>
      if w = v then acc.set (addressPort key vipPort) (Str.join ',' ips) else acc

/-- The entries of one address of the load balancer. -/
def addVip (b : Backends) (vipPort : Str) (acc : Dict Str Str) (lbVip : Str) :
    Except Exc (Dict Str Str) :=
  (addEntry env lbVip lbVip vipPort .v4 b.v4 acc).bind
    (addEntry env lbVip (bracket lbVip) vipPort .v6 b.v6)

/-- The entry of a floating IP, which only IPv4 backends get. -/
def addFip (b : Backends) (vipPort : Str) (acc : Dict Str Str) (fip : Str) :
    Except Exc (Dict Str Str) :=
  addEntry env fip fip vipPort .v4 b.v4 acc

def lbVips (externalIds : Dict Str Str) : List Str :=
  (externalIds.get? lbExtIdsVipKey).toList ++
    match externalIds.get? lbExtIdsAdditVipKey with
    | some vips => vips.splitOn ','
    | none => []

/-- The floating IPs, that of the VIP first; an empty text counts as none. -/
def lbFips (externalIds : Dict Str Str) : List Str :=
  (match externalIds.get? lbExtIdsVipFipKey with
    | some (c :: fip) => [c :: fip]
    | _ => []) ++
    match externalIds.get? lbExtIdsAdditVipFipKey with
    | some (c :: fips) => (c :: fips).splitOn ','
    | _ => []

def frameListener (externalIds : Dict Str Str) (acc : Dict Str Str) (kv : Str × Str) :
    Except Exc (Dict Str Str) :=
  if !hasListenerPrefix kv.1 || isListenerDisabled kv.1 then .ok acc else
    match extractListenerKeyValue kv.2 with
    | none => .ok acc
    | some (vipPort, poolId) =>
        if vipPort = [] ∨ poolId = [] then .ok acc else
          match externalIds.get? poolId with
          | none | some [] => .ok acc
          | some (c :: pool) => do
              let members ← extractMemberInfo (c :: pool)
              let b ← backendsOf env rowExternalIds members
              let acc ← (lbVips externalIds).foldlM (addVip env b vipPort) acc
              (lbFips externalIds).foldlM (addFip env b vipPort) acc

def frameVipIps (externalIds : Dict Str Str) : Except Exc (Dict Str Str) :=
  if externalIds.get? enabledKey = some (strBool false) then .ok ∅ else
    externalIds.items.foldlM (frameListener env rowExternalIds externalIds) ∅

end Frame

/-- The commands that replace the traffic map of `lb`; a sync leaves an equal one. -/
def refreshLbVips (env : Env) (lb : LoadBalancer) (externalIds : Dict Str Str) (isSync : Bool) :
    Nbctl (List Command) := do
  let row ← readLb lb
  let vips ← Prog.ofExcept (frameVipIps env row.externalIds externalIds)
  if isSync && row.vips = vips then return []
  return [.lbUpdate lb.uuid .clearVips, .lbUpdate lb.uuid (.setVips vips)]

end OvnOctavia
