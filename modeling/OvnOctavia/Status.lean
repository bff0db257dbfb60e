import OvnOctavia.Encoding

/-!
The statuses the handlers return for Octavia, and the one computed from a row:
the members' recorded statuses rolled up into pools, listeners and the load
balancer.
-/

namespace OvnOctavia

/-- The status of one object; `id` is nothing where the code stores `None`, the
other two where the key is absent. -/
structure StatusEntry where
  id : Option Str
  provisioningStatus : Option Str := none
  operatingStatus : Option Str := none
  deriving DecidableEq

/-- A status dictionary; a field is nothing where its key is absent. -/
structure Status where
  loadbalancers : Option (List StatusEntry) := none
  listeners : Option (List StatusEntry) := none
  pools : Option (List StatusEntry) := none
  members : Option (List StatusEntry) := none
  healthmonitors : Option (List StatusEntry) := none
  deriving DecidableEq

namespace Status

/-- All the entries of a status. -/
def entries (s : Status) : List StatusEntry :=
  s.loadbalancers.getD [] ++ s.listeners.getD [] ++ s.pools.getD [] ++ s.members.getD [] ++
    s.healthmonitors.getD []

end Status

/-- `_delete_disabled_from_status`: the `:D` suffix is cut from every value, which
has to be a text. -/
def StatusEntry.deleteDisabled (e : StatusEntry) : Except Exc StatusEntry :=
  let cut := Str.removeSuffix (':' :: disabledResourceSuffix)
  match e.id with
  | none => .error .typeError
  | some id => .ok { id := some (cut id)
                     provisioningStatus := e.provisioningStatus.map cut
                     operatingStatus := e.operatingStatus.map cut }

def deleteDisabledFromStatus (s : Status) : Except Exc Status := do
  let field (l : Option (List StatusEntry)) : Except Exc (Option (List StatusEntry)) :=
    match l with
    | none => .ok none
    | some l => (l.mapM StatusEntry.deleteDisabled).map some
  return { loadbalancers := ← field s.loadbalancers, listeners := ← field s.listeners,
           pools := ← field s.pools, members := ← field s.members,
           healthmonitors := ← field s.healthmonitors }

section OperatingStatuses

/-- The text between the first and the second underscore of a key. -/
def idOfKey (k : Str) : Except Exc Str := memberIdOf k

/-- The pools named in the values of the listener keys, by listener. -/
def listenerPools (externalIds : Dict Str Str) : Except Exc (Dict Str (List Str)) :=
  externalIds.items.foldlM (fun acc (k, v) =>
    if hasListenerPrefix k then do
      let id ← idOfKey k
      let pools ← ((v.splitOn ',').filter hasPoolPrefix).mapM idOfKey
      return acc.set id pools
    else return acc) ∅

/-- The members named in the values of the pool keys, by pool. -/
def poolMembers (externalIds : Dict Str Str) : Except Exc (Dict Str (List Str)) :=
  externalIds.items.foldlM (fun acc (k, v) =>
    if !hasListenerPrefix k && hasPoolPrefix k then do
      let id ← idOfKey k
      let members ← ((v.splitOn ',').filter (· ≠ [])).mapM memberIdOf
      return acc.set id members
    else return acc) ∅

variable (env : Env)

def poolStatus (memberStatuses : Dict Str Str) (pool : Str × List Str) :
    Except Exc (Str × Str) :=
  match env.getPool pool.1 with
  | none => .error .attributeError
  | some p =>
      let statuses := pool.2.map fun m => (memberStatuses.get? m).getD ONLINE
      .ok (pool.1,
        if !p.adminStateUp || memberStatuses.items.isEmpty then OFFLINE
        else if !statuses.isEmpty && statuses.all (· = ERROR) then ERROR
        else if statuses.any (· = ERROR) then DEGRADED
        else ONLINE)

def listenerStatus (poolStatuses : List (Str × Str)) (listener : Str × List Str) :
    Except Exc (Str × Str) :=
  match env.getListener listener.1 with
  | none => .error .attributeError
  | some l =>
      let statuses := listener.2.map fun p => (poolStatuses.lookup p).getD ONLINE
      .ok (listener.1,
        if !l.adminStateUp then OFFLINE
        else if statuses.any (· = ERROR) then ERROR
        else if statuses.any (· = DEGRADED) then DEGRADED
        else ONLINE)

def lbStatus (name : Str) (listenerStatuses : List Str) : Except Exc Str :=
  match env.getLoadbalancer name with
  | none => .error .attributeError
  | some lb => .ok <|
      if !lb.adminStateUp then OFFLINE
      else if listenerStatuses.any (· = ERROR) then ERROR
      else if listenerStatuses.any (· = DEGRADED) then DEGRADED
      else ONLINE

def activeEntry (s : Str × Str) : StatusEntry := ⟨some s.1, some ACTIVE, some s.2⟩

def getCurrentOperatingStatuses (row : LoadBalancer) : Except Exc Status := do
  let memberStatuses ← loadMemberStatuses row.externalIds
  let listeners ← listenerPools row.externalIds
  let pools ← poolMembers row.externalIds
  let poolStatuses ← pools.items.mapM (poolStatus env memberStatuses)
  let listenerStatuses ← listeners.items.mapM (listenerStatus env poolStatuses)
  let lb ← lbStatus env row.name (listenerStatuses.map Prod.snd)
  return { loadbalancers := some [activeEntry (row.name, lb)]
           listeners := some (listenerStatuses.map activeEntry)
           pools := some (poolStatuses.map activeEntry)
           members := some (memberStatuses.items.map activeEntry) }

end OperatingStatuses

/-- `_get_current_operating_statuses` of a row object, which may be `None`. -/
def currentOperatingStatuses (env : Env) (lb : Option LoadBalancer) : Nbctl Status :=
  match lb with
  | none => throw .attributeError
  | some lb => do
      let row ← readLb lb
      Prog.ofExcept (getCurrentOperatingStatuses env row)

end OvnOctavia
