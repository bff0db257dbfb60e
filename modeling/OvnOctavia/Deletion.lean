import OvnOctavia.HealthMonitor

/-!
The deletion of a load balancer: of all its rows, of what they are associated
with and, when it cascades, of the listeners, pools and members they hold.
-/

namespace OvnOctavia

/-- The objects a cascade has deleted, and the subnets of the members of the row at hand. -/
structure Deleted where
  listeners : List StatusEntry := []
  pools : List StatusEntry := []
  members : List StatusEntry := []
  subnets : List Str := []
  deriving DecidableEq

/-- A loop that keeps what it has collected when it fails. -/
def untilFailure {α β : Type} (f : α → β → Nbctl (α × Except Exc Unit)) :
    α → List β → Nbctl (α × Except Exc Unit)
  | acc, [] => pure (acc, .ok ())
  | acc, b :: bs => do
      match ← f acc b with
      | (acc, .ok _) => untilFailure f acc bs
      | (acc, .error e) => return (acc, .error e)

section Cascade
variable (env : Env)

/-- The member request a cascade builds from a pool item; the address ends at
the first colon. -/
def cascadeMemberInfo (poolId memInfo : Str) : Except Exc MemberInfo :=
  match memInfo.splitOn '_' with
  | _ :: id :: ipPort :: subnet :: _ =>
      match ipPort.splitOn ':' with
      | ip :: port :: _ =>
          .ok { id, address := some ip, protocolPort := some port, poolId := some poolId
                subnetId := some subnet }
      | _ => .error .indexError
  | _ => .error .indexError

def cascadeMember (poolId : Str) (acc : Deleted) (memInfo : Str) :
    Nbctl (Deleted × Except Exc Unit) := do
  match cascadeMemberInfo poolId memInfo with
  | .error e => return (acc, .error e)
  | .ok member =>
      let acc := { acc with subnets := acc.subnets ++ member.subnetId.toList }
      let deleted ← (do
        let _ ← memberDelete env member
        handleMemberDvr env member false : Nbctl Unit).attempt
      match deleted with
      | .error e => return (acc, .error e)
      | .ok _ => return ({ acc with members := acc.members ++ deletedMember member.id DELETED },
          .ok ())

def cascadeKey (acc : Deleted) (kv : Str × Str) : Nbctl (Deleted × Except Exc Unit) := do
  match idOfKey kv.1 with
  | .error _ => return (acc, .ok ())
  | .ok id =>
      if Str.startsWith lbExtIdsPoolPrefix kv.1 then
        match ← untilFailure (cascadeMember env id) acc (poolItems kv.2) with
        | (acc, .ok _) =>
            return ({ acc with pools := acc.pools ++
              [{ id := some id, provisioningStatus := some DELETED }] }, .ok ())
        | (acc, .error e) => return (acc, .error e)
      else if Str.startsWith lbExtIdsListenerPrefix kv.1 then
        return ({ acc with listeners := acc.listeners ++
          [⟨some id, some DELETED, some OFFLINE⟩] }, .ok ())
      else return (acc, .ok ())

/-- The commands that delete the row as it is now, with every association. -/
def lbDeleteCommands (nb : Nb) (lb : LoadBalancer) : List Command :=
  let row := lb.live nb
  let clearHc : List Command :=
    if row.healthCheck ≠ [] then [.lbUpdate lb.uuid .clearHealthCheck] else []
  let counted := (loadLsRefs row.externalIds).keys.filterMap fun name => nb.switch? (.name name)
  let linked := nb.switches.filter (·.loadBalancer.contains lb.uuid)
  let router : List LogicalRouter := match row.externalIds.get? lbExtIdsLrRefKey with
    | some (c :: ref) => (nb.routers.find? (·.name = c :: ref)).toList
    | _ => []
  let routers := nb.routers.filter (·.loadBalancer.contains lb.uuid)
  clearHc ++ (counted.map fun ls => .lsLbDel (.uuid ls.uuid) lb.uuid false) ++
    (linked.map fun ls => .lsLbDel (.uuid ls.uuid) lb.uuid true) ++
    (router.map fun lr => .lrLbDel lr.uuid lb.uuid false) ++
    (routers.map fun lr => .lrLbDel lr.uuid lb.uuid true) ++ [.lbDel lb.uuid]

def Command.isLinkDel : Command → Bool
  | .lsLbDel .. | .lrLbDel .. => true
  | _ => false

/-- `_lb_delete` of one row. -/
def lbDeleteRow (cascade : Bool) (acc : Deleted) (lb : LoadBalancer) :
    Nbctl (Deleted × Except Exc Unit) := do
  let row ← readLb lb
  let acc := { acc with subnets := [] }
  match ← untilFailure (cascadeKey env) acc (if cascade then row.externalIds.items else []) with
  | (acc, .error e) => return (acc, .error e)
  | (acc, .ok _) =>
      let row ← readLb lb
      let nb ← Prog.get
      let commands := lbDeleteCommands nb lb
      let deleted ← (do
        (executeCommands commands).tryCatch fun e =>
          if e = .rowNotFound then
            Prog.each (fun command =>
              (Prog.transaction [command]).tryCatch fun e =>
                if e = .rowNotFound ∧ command.isLinkDel then pure () else throw e) commands
          else throw e
        if row.healthCheck ≠ [] then
          Prog.each (cleanUpHmPort env) acc.subnets.dedup : Nbctl Unit).attempt
      return (acc, deleted)

end Cascade

section Requests
variable (env : Env)

def lbDeleteStatus (lbId provisioningStatus operatingStatus : Str) (deleted : Deleted) : Status :=
  { lbStatusOf lbId provisioningStatus operatingStatus with
    listeners := some deleted.listeners
    pools := some deleted.pools
    members := some deleted.members }

/-- The keys without entries are dropped once the rows are deleted. -/
def lbDeletedStatus (lbId provisioningStatus operatingStatus : Str) (deleted : Deleted) : Status :=
  let nonempty (l : List StatusEntry) : Option (List StatusEntry) := if l = [] then none else some l
  { lbStatusOf lbId provisioningStatus operatingStatus with
    listeners := nonempty deleted.listeners
    pools := nonempty deleted.pools
    members := nonempty deleted.members }

/-- Without a row only the ports Octavia knows are deleted. -/
def lbDeleteMissing (lbId : Str) : Nbctl Status := do
  let lb := env.getLoadbalancer lbId
  let vip ← (match lb.bind ProviderLoadBalancer.vipPortId with
    | some (c :: id) => deletePort env (c :: id)
    | _ => pure ()).attempt
  let additional ← (Prog.each (fun vip : AdditionalVip => deletePort env vip.portId)
    ((lb.map ProviderLoadBalancer.additionalVips).getD [])).attempt
  if vip.isOk && additional.isOk then return lbDeleteStatus lbId DELETED OFFLINE {}
  return lbDeleteStatus lbId ERROR ERROR {}

def lbDelete (info : LoadBalancerInfo) : Nbctl Status := do
  match ← (findOvnLbs info.id).attempt with
  | .error .rowNotFound => lbDeleteMissing env info.id
  | .error e => throw e
  | .ok [] => throw .indexError
  | .ok (lb :: lbs) =>
      let row ← readLb lb
      match row.externalIds.get? lbExtIdsVipPortIdKey with
      | none => return lbDeleteStatus info.id ERROR ERROR {}
      | some portId =>
          match ← untilFailure (lbDeleteRow env info.cascade) {} (lb :: lbs) with
          | (deleted, .error _) => return lbDeleteStatus info.id ERROR ERROR deleted
          | (deleted, .ok _) =>
              let additional := match row.externalIds.get? lbExtIdsAdditVipPortIdKey with
                | some (c :: ids) => (c :: ids).splitOn ','
                | _ => []
              match ← (Prog.each (deletePort env) (portId :: additional)).attempt with
              | .ok _ => return lbDeletedStatus info.id DELETED OFFLINE deleted
              | .error _ => return lbDeletedStatus info.id ERROR ERROR deleted

end Requests

end OvnOctavia
