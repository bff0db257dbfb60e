import OvnOctavia.Listener

/-!
The pool requests. A pool is one key of the row of its protocol, with `:D` while
it is disabled; its value lists its members. The listeners of a pool name the
pool's key in their values.
-/

namespace OvnOctavia

/-- A session persistence; `timeout` says whether the key is there, then whether
it holds a number. -/
structure Persistence where
  timeout : Option (Option Nat) := none
  deriving DecidableEq

/-- The information of a pool request. The outer option of `sessionPersistence`
says whether the dictionary has the key; `None` and an empty one are alike. -/
structure PoolInfo where
  id : Str
  loadbalancerId : Str
  protocol : Protocol
  lbAlgorithm : Option LbAlgorithm := none
  listenerId : Option Str := none
  adminStateUp : Option Bool := none
  sessionPersistence : Option (Option Persistence) := none
  deriving DecidableEq

/-- `str(persistence.get('persistence_timeout', '360'))`. -/
def Persistence.timeoutText (p : Persistence) : Str :=
  match p.timeout with
  | none => "360".toList
  | some none => "None".toList
  | some (some n) => Str.ofNat n

/-- Whether that timeout counts as true. -/
def Persistence.hasTimeout (p : Persistence) : Bool :=
  match p.timeout with
  | none => true
  | some none => false
  | some (some n) => n ≠ 0

def setAffinity (lb : LoadBalancer) (timeout : Str) : Command :=
  .lbUpdate lb.uuid (.setOptions (lb.options.set affinityTimeout timeout))

/-- A new pool sets a timeout that counts as true, an update any. -/
def createAffinity (lb : LoadBalancer) (info : PoolInfo) : List Command :=
  match info.sessionPersistence with
  | some (some p) => if p.hasTimeout then [setAffinity lb p.timeoutText] else []
  | _ => []

def updateAffinity (lb : LoadBalancer) (info : PoolInfo) : List Command :=
  match info.sessionPersistence with
  | some (some p) => [setAffinity lb p.timeoutText]
  | _ => []

def activeListeners (listeners : List Str) : List StatusEntry :=
  listeners.map fun l => { id := some l, provisioningStatus := some ACTIVE }

def poolStatusOf (info : PoolInfo) (provisioningStatus : Str) (operatingStatus : Option Str)
    (lbProvisioningStatus : Str) (listeners : Option (List Str)) : Status :=
  { pools := some [⟨some info.id, some provisioningStatus, operatingStatus⟩]
    loadbalancers := some [{ id := some info.loadbalancerId
                             provisioningStatus := some lbProvisioningStatus }]
    listeners := listeners.map activeListeners }

section Requests
variable (env : Env)

/-- The keys of a row with the new pool, attached to its enabled listener. -/
def poolCreateExternalIds (info : PoolInfo) (up : Bool) (externalIds : Dict Str Str) :
    Dict Str Str :=
  let poolKey := getPoolKey info.id up
  let withPool := externalIds.set poolKey []
  match info.listenerId with
  | some (c :: listenerId) =>
      let listenerKey := getListenerKey (c :: listenerId) true
      match externalIds.get? listenerKey with
      | none => withPool
      | some value =>
          if Str.contains poolKey value then withPool else withPool.set listenerKey
            (value ++ poolKey)
  | _ => withPool

/-- The listener of the request, if it names one. -/
def listenerOf (info : PoolInfo) : Option Str :=
  match info.listenerId with
  | some (c :: listenerId) => some (c :: listenerId)
  | _ => none

def poolCreateOn (info : PoolInfo) (up : Bool) (ovnLb : LoadBalancer) : Nbctl Unit := do
  let row ← readLb ovnLb
  let externalIds := poolCreateExternalIds info up row.externalIds
  executeCommands (.lbUpdate ovnLb.uuid (.setExternalIds externalIds) :: createAffinity row info)

def poolCreate (info : PoolInfo) : Nbctl Status := do
  match info.adminStateUp with
  | none => throw .keyError
  | some up =>
      let ovnLb ← getOrCreateOvnLb env info.loadbalancerId info.protocol up info.lbAlgorithm
      let listeners := (listenerOf info).map fun l => [l]
      match ← (poolCreateOn info up ovnLb).attempt with
      | .ok _ =>
          return poolStatusOf info ACTIVE (some (if listeners.isSome then ONLINE else OFFLINE))
            ACTIVE listeners
      | .error _ => return poolStatusOf info ERROR none ACTIVE listeners

def detachListener (poolKey : Str) (acc : Dict Str Str) (kv : Str × Str) : Dict Str Str :=
  if Str.startsWith lbExtIdsListenerPrefix kv.1 && Str.contains poolKey kv.2 then
    acc.set kv.1 ((kv.2.splitOn ':').headD [] ++ [':'])
  else acc

/-- The keys of a row whose listeners no longer name the pool. -/
def detachPool (poolKey : Str) (present externalIds : Dict Str Str) : Dict Str Str :=
  present.items.foldl (detachListener poolKey) externalIds

def attachedListeners (poolKey : Str) (present : Dict Str Str) : List (Str × Str) :=
  present.items.filter fun kv =>
    Str.startsWith lbExtIdsListenerPrefix kv.1 && Str.contains poolKey kv.2

/-- The transaction of `pool_delete`. The copy of the keys is written once for
each listener of the pool, always in its final state. -/
def poolDeleteOn (info : PoolInfo) (ovnLb : LoadBalancer) (present : Dict Str Str) :
    Nbctl Unit := do
  let poolKey := getPoolKey info.id true
  let disabledKey := getPoolKey info.id false
  let withoutPool := present.erase poolKey
  let refresh ←
    if present.contains poolKey then refreshLbVips env ovnLb withoutPool false else pure []
  let remove : List Command :=
    if present.contains poolKey then [.lbUpdate ovnLb.uuid (.removeExternalId poolKey)] else []
  let row ← readLb ovnLb
  let externalIds := detachPool poolKey row.externalIds withoutPool
  let detach : List Command := (attachedListeners poolKey row.externalIds).map fun _ =>
    .lbUpdate ovnLb.uuid (.setExternalIds externalIds)
  let removeDisabled : List Command :=
    if row.externalIds.contains disabledKey then
      [.lbUpdate ovnLb.uuid (.removeExternalId disabledKey)] else []
  let removeAffinity : List Command :=
    if row.options.contains affinityTimeout then
      [.lbUpdate ovnLb.uuid (.removeOption affinityTimeout)] else []
  let (clean, _) ← cleanLbIfEmpty ovnLb info.loadbalancerId externalIds
  executeCommands (remove ++ refresh ++ detach ++ removeDisabled ++ removeAffinity ++ clean)

def poolDelete (info : PoolInfo) : Nbctl Status := do
  match ← (findOvnLb info.loadbalancerId info.protocol).attempt with
  | .error .rowNotFound => return poolStatusOf info DELETED none ACTIVE none
  | .error e => throw e
  | .ok ovnLb =>
      let row ← readLb ovnLb
      let listeners := getPoolListeners row.externalIds (getPoolKey info.id true)
      match ← (poolDeleteOn env info ovnLb row.externalIds).attempt with
      | .ok _ => return poolStatusOf info DELETED none ACTIVE (some listeners)
      | .error _ => return poolStatusOf info ERROR none ACTIVE (some listeners)

/-- The commands that move the pool between its enabled and its disabled key. -/
def movePoolKey (ovnLb : LoadBalancer) (fromKey toKey : Str) (present : Dict Str Str) :
    Nbctl (List Command) :=
  match present.get? fromKey with
  | none => pure []
  | some value => do
      let refresh ← refreshLbVips env ovnLb ((present.set toKey value).erase fromKey) false
      return .lbUpdate ovnLb.uuid (.removeExternalId fromKey) ::
        .lbUpdate ovnLb.uuid (.setExternalIds (.single toKey value)) :: refresh

/-- The transaction of `pool_update`; without an admin state it raises after the
commit. -/
def poolUpdateOn (info : PoolInfo) (ovnLb : LoadBalancer) (present : Dict Str Str) :
    Nbctl Str := do
  let moved ← match info.adminStateUp with
    | none => pure []
    | some up =>
        movePoolKey env ovnLb (getPoolKey info.id (!up)) (getPoolKey info.id up) present
  let row ← readLb ovnLb
  executeCommands (moved ++ updateAffinity row info)
  match info.adminStateUp with
  | none => throw .keyError
  | some up => return if up then ONLINE else OFFLINE

def poolUpdate (info : PoolInfo) : Nbctl Status := do
  if info.adminStateUp.isNone && info.sessionPersistence.isNone then
    return poolStatusOf info ACTIVE none ACTIVE none
  match ← (findOvnLb info.loadbalancerId info.protocol).attempt with
  | .error .rowNotFound => return poolStatusOf info ERROR none ERROR none
  | .error e => throw e
  | .ok ovnLb =>
      let row ← readLb ovnLb
      let listeners := getPoolListeners row.externalIds (getPoolKey info.id true)
      match ← (poolUpdateOn env info ovnLb row.externalIds).attempt with
      | .ok operatingStatus =>
          return poolStatusOf info ACTIVE (some operatingStatus) ACTIVE (some listeners)
      | .error _ => return poolStatusOf info ERROR none ACTIVE (some listeners)

end Requests

end OvnOctavia
