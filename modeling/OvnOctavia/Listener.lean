import OvnOctavia.LoadBalancer

/-!
The listener requests. A listener is one key of the row of its protocol; its
value is its port and the key of its default pool.
-/

namespace OvnOctavia

/-- The information of a listener request. The outer option of `defaultPoolId`
and that of `adminStateUp` say whether the dictionary has the key. -/
structure ListenerInfo where
  id : Str
  loadbalancerId : Str
  protocol : Protocol
  protocolPort : Nat
  defaultPoolId : Option (Option Str) := none
  adminStateUp : Option Bool := none
  deriving DecidableEq

/-- `str(_)` of an id that may be `None`. -/
def strId (id : Option Str) : Str := id.getD "None".toList

/-- The pool key in the value of a new listener. -/
def defaultPoolKey (info : ListenerInfo) : Str :=
  match info.defaultPoolId with
  | some (some (c :: id)) => getPoolKey (c :: id) true
  | _ => []

def healthChecksOf (lb : LoadBalancer) : Nbctl (List HealthCheck) := .read fun nb =>
  pure ((lb.live nb).healthCheck.filterMap nb.hc?)

def bracketVip (env : Env) (vip : Str) : Except Exc Str :=
  (env.version vip).map fun v => if v = .v6 then bracket vip else vip

def updateLbhcVipPort (env : Env) (lbhc : HealthCheck) (vipPort : Nat) : Nbctl Unit := do
  let vip ← match lbhc.vip with
    | c :: vip => pure (addressPort (((c :: vip).splitOn ':').headD []) (Str.ofNat vipPort))
    | [] =>
        match lbhc.externalIds.get? lbExtIdsHmVip with
        | some (c :: vip) => do
            let vip ← Prog.ofExcept (bracketVip env (c :: vip))
            pure (addressPort vip (Str.ofNat vipPort))
        | _ => pure []
  executeCommands [.hcUpdate lbhc.uuid (.setVip vip)]

def listenerStatusOf (info : ListenerInfo) (provisioningStatus : Str)
    (operatingStatus : Option Str) : Status :=
  { listeners := some [⟨some info.id, some provisioningStatus, operatingStatus⟩]
    loadbalancers := some [{ id := some info.loadbalancerId, provisioningStatus := some ACTIVE }] }

section Requests
variable (env : Env)

/-- The transaction of `listener_create` on the row found for it. -/
def listenerCreateOn (info : ListenerInfo) (up : Bool) (ovnLb : LoadBalancer) : Nbctl Unit := do
  let row ← readLb ovnLb
  let listenerKey := getListenerKey info.id up
  let value := makeListenerKeyValue info.protocolPort (defaultPoolKey info)
  let setProtocol : List Command :=
    if isListenerInLb row.externalIds then []
    else [.lbUpdate ovnLb.uuid (.setProtocol (some info.protocol))]
  let refresh ← refreshLbVips env ovnLb (row.externalIds.set listenerKey value) false
  executeCommands (.lbUpdate ovnLb.uuid (.setExternalIds (.single listenerKey value)) ::
    (setProtocol ++ refresh))

/-- The health checks of the default pool get the port of its new listener. -/
def updateLbhcVipPorts (info : ListenerInfo) (ovnLb : LoadBalancer) : Nbctl Unit :=
  if defaultPoolKey info = [] then pure () else do
    let lbhcs ← healthChecksOf ovnLb
    Prog.each (fun lbhc =>
      if lbhc.externalIds.get? lbExtIdsHmPoolKey =
          some ((defaultPoolKey info).drop lbExtIdsPoolPrefix.length) then
        updateLbhcVipPort env lbhc info.protocolPort
      else pure ()) lbhcs

def listenerCreate (info : ListenerInfo) : Nbctl Status := do
  match info.adminStateUp with
  | none => throw .keyError
  | some up =>
      let ovnLb ← getOrCreateOvnLb env info.loadbalancerId info.protocol up (some .sourceIpPort)
      match ← (listenerCreateOn env info up ovnLb).attempt with
      | .error _ => return listenerStatusOf info ERROR (some ERROR)
      | .ok _ =>
          updateLbhcVipPorts env info ovnLb
          return listenerStatusOf info ACTIVE (some (if up then ONLINE else OFFLINE))

def listenerDeleteOn (info : ListenerInfo) (ovnLb : LoadBalancer) (present : Dict Str Str) :
    Nbctl Unit := do
  let listenerKey := getListenerKey info.id true
  let externalIds := present.erase listenerKey
  let (commands, lbToDelete) ← cleanLbIfEmpty ovnLb info.loadbalancerId externalIds
  let refresh ← if lbToDelete then pure [] else refreshLbVips env ovnLb externalIds false
  executeCommands (.lbUpdate ovnLb.uuid (.removeExternalId listenerKey) :: (commands ++ refresh))

def listenerDelete (info : ListenerInfo) : Nbctl Status := do
  match ← (findOvnLb info.loadbalancerId info.protocol).attempt with
  | .error .rowNotFound => return listenerStatusOf info DELETED (some OFFLINE)
  | .error e => throw e
  | .ok ovnLb =>
      let row ← readLb ovnLb
      if row.externalIds.contains (getListenerKey info.id true) then
        match ← (listenerDeleteOn env info ovnLb row.externalIds).attempt with
        | .ok _ => return listenerStatusOf info DELETED (some OFFLINE)
        | .error _ => return listenerStatusOf info ERROR (some ERROR)
      else return listenerStatusOf info DELETED (some OFFLINE)

/-- The key a listener has in the row, the enabled one first. -/
def presentListenerKey (externalIds : Dict Str Str) (id : Str) : Option Str :=
  if externalIds.contains (getListenerKey id true) then some (getListenerKey id true)
  else if externalIds.contains (getListenerKey id false) then some (getListenerKey id false)
  else none

/-- The transaction of `listener_update`: the key moves with the admin state,
the value is rewritten for a default pool, `pool_None` for none. -/
def listenerUpdateOn (info : ListenerInfo) (presentKey : Str) (ovnLb : LoadBalancer)
    (present : Dict Str Str) : Nbctl Unit := do
  match present.get? presentKey with
  | none => throw .keyError
  | some value =>
      let newKey := (info.adminStateUp.map (getListenerKey info.id)).getD presentKey
      let moved : Dict Str Str × Dict Str Str × List Command :=
        if presentKey ≠ newKey then
          ((present.set newKey value).erase presentKey, .single newKey value,
            [.lbUpdate ovnLb.uuid (.removeExternalId presentKey)])
        else (present, ∅, [])
      let (externalIds, toAdd) :=
        match info.defaultPoolId with
        | some pool =>
            let value := makeListenerKeyValue info.protocolPort (getPoolKey (strId pool) true)
            (moved.1.set newKey value, moved.2.1.set newKey value)
        | none => (moved.1, moved.2.1)
      let add : List Command :=
        if toAdd.items = [] then [] else [.lbUpdate ovnLb.uuid (.setExternalIds toAdd)]
      let refresh ← refreshLbVips env ovnLb externalIds false
      executeCommands (moved.2.2 ++ add ++ refresh)

/-- The status of an update; `updated` says whether the listener was found. -/
def listenerUpdateStatus (info : ListenerInfo) (provisioningStatus : Str) (updated : Bool) :
    Status :=
  { listeners := some [⟨some info.id, some provisioningStatus,
      if updated then info.adminStateUp.map fun up => if up then ONLINE else OFFLINE else none⟩]
    loadbalancers := some [{ id := some info.loadbalancerId
                             provisioningStatus := some provisioningStatus }]
    pools := some <| if updated then
        info.defaultPoolId.toList.map fun pool => { id := pool, provisioningStatus := some ACTIVE }
      else [] }

def listenerUpdate (info : ListenerInfo) : Nbctl Status := do
  match ← (findOvnLb info.loadbalancerId info.protocol).attempt with
  | .error .rowNotFound => return listenerUpdateStatus info ERROR false
  | .error e => throw e
  | .ok ovnLb =>
      if info.adminStateUp.isNone && info.defaultPoolId.isNone then
        return listenerUpdateStatus info ACTIVE false
      let row ← readLb ovnLb
      match presentListenerKey row.externalIds info.id with
      | none => return listenerUpdateStatus info ACTIVE false
      | some presentKey =>
          match ← (listenerUpdateOn env info presentKey ovnLb row.externalIds).attempt with
          | .ok _ => return listenerUpdateStatus info ACTIVE true
          | .error _ => return listenerStatusOf info ERROR none

end Requests

end OvnOctavia
