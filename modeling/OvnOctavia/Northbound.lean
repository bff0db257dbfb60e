import OvnOctavia.Library.Dict
import OvnOctavia.Library.Prog
import OvnOctavia.Environment

/-!
The tables of the OVN northbound database the provider works on and the
commands it commits. Writing a map column merges the written keys into those
present; a command on a row that is gone raises `RowNotFound`. Columns that no
handler reads or writes are left out.
-/

namespace OvnOctavia

structure LoadBalancer where
  uuid : Nat
  name : Str
  protocol : Option Protocol
  vips : Dict Str Str
  externalIds : Dict Str Str
  options : Dict Str Str
  selectionFields : List Str
  healthCheck : List Nat
  ipPortMappings : Dict Str Str
  deriving DecidableEq

structure HealthCheck where
  uuid : Nat
  vip : Str
  options : Dict Str Str
  externalIds : Dict Str Str
  deriving DecidableEq

structure LogicalSwitchPort where
  name : Str
  type : Str
  externalIds : Dict Str Str
  options : Dict Str Str
  addresses : List Str
  deriving DecidableEq

structure LogicalSwitch where
  uuid : Nat
  name : Str
  loadBalancer : List Nat
  ports : List LogicalSwitchPort
  deriving DecidableEq

structure LogicalRouterPort where
  name : Str
  gatewayChassis : Bool
  networks : List Str
  externalIds : Dict Str Str
  deriving DecidableEq

structure LogicalRouter where
  uuid : Nat
  name : Str
  loadBalancer : List Nat
  ports : List LogicalRouterPort
  externalIds : Dict Str Str
  deriving DecidableEq

structure NatRule where
  uuid : Nat
  externalIds : Dict Str Str
  externalMac : Option Str
  logicalPort : Option Str
  deriving DecidableEq

/-- The database; `nextUuid` is larger than every row identifier handed out.
The ports Neutron was asked to delete are recorded beside it, in order. -/
structure Nb where
  loadBalancers : List LoadBalancer
  healthChecks : List HealthCheck
  switches : List LogicalSwitch
  routers : List LogicalRouter
  nats : List NatRule
  nextUuid : Nat
  deletedPorts : List Str
  deriving DecidableEq

/-- A switch is named by its row identifier or by its name. -/
inductive SwitchRef where
  | uuid (n : Nat)
  | name (s : Str)
  deriving DecidableEq

/-- The changes of one `Load_Balancer` row: `db_set`, `db_clear` and `db_remove`. -/
inductive LbOp where
  | setExternalIds (kv : Dict Str Str)
  | removeExternalId (k : Str)
  | setProtocol (p : Option Protocol)
  | clearVips
  | setVips (kv : Dict Str Str)
  | setOptions (kv : Dict Str Str)
  | removeOption (k : Str)
  | setSelectionFields (l : List Str)
  | addHealthCheck (hc : Nat)
  | removeHealthCheck (hc : Nat)
  | clearHealthCheck
  | setIpPortMapping (k v : Str)
  | removeIpPortMapping (k : Str)
  | clearIpPortMappings
  deriving DecidableEq

inductive HcOp where
  | setVip (v : Str)
  | setOptions (kv : Dict Str Str)
  | setExternalIds (kv : Dict Str Str)
  deriving DecidableEq

inductive Command where
  | lbCreate (name : Str) (protocol : Option Protocol) (externalIds : Dict Str Str)
      (selectionFields : List Str)
  | lbUpdate (lb : Nat) (op : LbOp)
  | lbDel (lb : Nat)
  /-- `db_create` of a health check together with the `db_add` that links it. -/
  | hcCreate (lb : Nat) (vip : Str) (options externalIds : Dict Str Str)
  | hcUpdate (hc : Nat) (op : HcOp)
  | hcDestroy (hc : Nat)
  | lsLbAdd (ls : SwitchRef) (lb : Nat)
  | lsLbDel (ls : SwitchRef) (lb : Nat) (ifExists : Bool)
  | lrLbAdd (lr : Nat) (lb : Nat)
  | lrLbDel (lr : Nat) (lb : Nat) (ifExists : Bool)
  | natClearExternalMac (n : Nat)
  | natClearLogicalPort (n : Nat)
  | portDelete (id : Str)
  deriving DecidableEq

def LbOp.apply (lb : LoadBalancer) : LbOp → LoadBalancer
  | setExternalIds kv => { lb with externalIds := lb.externalIds.update kv }
  | removeExternalId k => { lb with externalIds := lb.externalIds.erase k }
  | setProtocol p => { lb with protocol := p }
  | clearVips => { lb with vips := ∅ }
  | setVips kv => { lb with vips := lb.vips.update kv }
  | setOptions kv => { lb with options := lb.options.update kv }
  | removeOption k => { lb with options := lb.options.erase k }
  | setSelectionFields l => { lb with selectionFields := l }
  | addHealthCheck hc =>
      { lb with healthCheck := if hc ∈ lb.healthCheck then lb.healthCheck
                               else lb.healthCheck ++ [hc] }
  | removeHealthCheck hc => { lb with healthCheck := lb.healthCheck.filter (· ≠ hc) }
  | clearHealthCheck => { lb with healthCheck := [] }
  | setIpPortMapping k v => { lb with ipPortMappings := lb.ipPortMappings.set k v }
  | removeIpPortMapping k => { lb with ipPortMappings := lb.ipPortMappings.erase k }
  | clearIpPortMappings => { lb with ipPortMappings := ∅ }

def HcOp.apply (hc : HealthCheck) : HcOp → HealthCheck
  | setVip v => { hc with vip := v }
  | setOptions kv => { hc with options := hc.options.update kv }
  | setExternalIds kv => { hc with externalIds := hc.externalIds.update kv }

namespace Nb

def lb? (nb : Nb) (u : Nat) : Option LoadBalancer := nb.loadBalancers.find? (·.uuid = u)

def hc? (nb : Nb) (u : Nat) : Option HealthCheck := nb.healthChecks.find? (·.uuid = u)

def switch? (nb : Nb) : SwitchRef → Option LogicalSwitch
  | .uuid u => nb.switches.find? (·.uuid = u)
  | .name s => nb.switches.find? (·.name = s)

def router? (nb : Nb) (u : Nat) : Option LogicalRouter := nb.routers.find? (·.uuid = u)

/-- The rows of the `Load_Balancer` table with the given name. -/
def lbsNamed (nb : Nb) (name : Str) : List LoadBalancer :=
  nb.loadBalancers.filter (·.name = name)

def updateLb (nb : Nb) (u : Nat) (f : LoadBalancer → LoadBalancer) : Nb :=
  { nb with loadBalancers := nb.loadBalancers.map fun lb => if lb.uuid = u then f lb else lb }

def updateSwitch (nb : Nb) (u : Nat) (f : LogicalSwitch → LogicalSwitch) : Nb :=
  { nb with switches := nb.switches.map fun ls => if ls.uuid = u then f ls else ls }

def updateRouter (nb : Nb) (u : Nat) (f : LogicalRouter → LogicalRouter) : Nb :=
  { nb with routers := nb.routers.map fun lr => if lr.uuid = u then f lr else lr }

/-- Health checks that no load balancer refers to are collected. -/
def collectHealthChecks (nb : Nb) : Nb :=
  { nb with healthChecks := nb.healthChecks.filter fun hc =>
              nb.loadBalancers.any fun lb => lb.healthCheck.contains hc.uuid }

/-- Deleting a load balancer also takes it out of the switches and routers that
refer to it. -/
def deleteLb (nb : Nb) (u : Nat) : Nb :=
  collectHealthChecks { nb with
    loadBalancers := nb.loadBalancers.filter (·.uuid ≠ u)
    switches := nb.switches.map fun ls =>
      { ls with loadBalancer := ls.loadBalancer.filter (· ≠ u) }
    routers := nb.routers.map fun lr =>
      { lr with loadBalancer := lr.loadBalancer.filter (· ≠ u) } }

/-- A new row; only its name, protocol, keys and selection fields are set. -/
def createLb (nb : Nb) (name : Str) (protocol : Option Protocol) (externalIds : Dict Str Str)
    (selectionFields : List Str) : Nb :=
  { nb with
    loadBalancers := nb.loadBalancers ++
      [{ uuid := nb.nextUuid, name, protocol, vips := ∅, externalIds, options := ∅,
         selectionFields, healthCheck := [], ipPortMappings := ∅ }]
    nextUuid := nb.nextUuid + 1 }

/-- `apply c nb`: the database after `c`. To take a row out of a switch or router that does not
have it changes nothing; `if_exists` is about the row, which no list has once it is gone. -/
def apply (c : Command) (nb : Nb) : Except Exc Nb :=
  match c with
  | .lbCreate name protocol externalIds selectionFields =>
      .ok (nb.createLb name protocol externalIds selectionFields)
  | .lbUpdate u op =>
      match nb.lb? u with
      | none => .error .rowNotFound
      | some _ => .ok (nb.updateLb u (LbOp.apply · op))
  | .lbDel u =>
      match nb.lb? u with
      | none => .error .rowNotFound
      | some _ => .ok (nb.deleteLb u)
  | .hcCreate u vip options externalIds =>
      match nb.lb? u with
      | none => .error .rowNotFound
      | some _ => .ok { nb.updateLb u (LbOp.apply · (.addHealthCheck nb.nextUuid)) with
          healthChecks := nb.healthChecks ++
            [{ uuid := nb.nextUuid, vip, options, externalIds }]
          nextUuid := nb.nextUuid + 1 }
  | .hcUpdate u op =>
      match nb.hc? u with
      | none => .error .rowNotFound
      | some _ => .ok { nb with
          healthChecks := nb.healthChecks.map fun hc =>
            if hc.uuid = u then HcOp.apply hc op else hc }
  | .hcDestroy u =>
      match nb.hc? u with
      | none => .error .rowNotFound
      | some _ => .ok { nb with healthChecks := nb.healthChecks.filter (·.uuid ≠ u) }
  | .lsLbAdd ref u =>
      match nb.switch? ref, nb.lb? u with
      | some ls, some _ => .ok <| nb.updateSwitch ls.uuid fun ls =>
          { ls with loadBalancer := if u ∈ ls.loadBalancer then ls.loadBalancer
                                    else ls.loadBalancer ++ [u] }
      | _, _ => .error .rowNotFound
  | .lsLbDel ref u ifExists =>
      match nb.switch? ref with
      | some ls =>
          if (nb.lb? u).isSome ∨ ifExists then .ok <| nb.updateSwitch ls.uuid fun ls =>
            { ls with loadBalancer := ls.loadBalancer.filter (· ≠ u) }
          else .error .runtimeError
      | none => .error .rowNotFound
  | .lrLbAdd r u =>
      match nb.router? r, nb.lb? u with
      | some _, some _ => .ok <| nb.updateRouter r fun lr =>
          { lr with loadBalancer := if u ∈ lr.loadBalancer then lr.loadBalancer
                                    else lr.loadBalancer ++ [u] }
      | _, _ => .error .rowNotFound
  | .lrLbDel r u ifExists =>
      match nb.router? r with
      | some _ =>
          if (nb.lb? u).isSome ∨ ifExists then .ok <| nb.updateRouter r fun lr =>
            { lr with loadBalancer := lr.loadBalancer.filter (· ≠ u) }
          else .error .runtimeError
      | none => .error .rowNotFound
  | .natClearExternalMac n =>
      if nb.nats.any (·.uuid = n) then
        .ok { nb with nats := nb.nats.map fun x =>
                if x.uuid = n then { x with externalMac := none } else x }
      else .error .rowNotFound
  | .natClearLogicalPort n =>
      if nb.nats.any (·.uuid = n) then
        .ok { nb with nats := nb.nats.map fun x =>
                if x.uuid = n then { x with logicalPort := none } else x }
      else .error .rowNotFound
  | .portDelete id => .ok { nb with deletedPorts := nb.deletedPorts ++ [id] }

end Nb

/-- A handler: it reads the northbound database and commits transactions to it. -/
abbrev Nbctl (α : Type) := Prog Command Nb Exc α

/-- The columns a row object shows: the present ones of its row, and the last
ones it had once the row is gone. -/
def LoadBalancer.live (lb : LoadBalancer) (nb : Nb) : LoadBalancer := (nb.lb? lb.uuid).getD lb

/-- A read of the columns of `lb`. -/
def readLb (lb : LoadBalancer) : Nbctl LoadBalancer := .read fun nb => .pure (lb.live nb)

/-- `_execute_commands`: one transaction, none for no command. -/
def executeCommands : List Command → Nbctl Unit
  | [] => pure ()
  | c :: cs => Prog.transaction (c :: cs)

end OvnOctavia
