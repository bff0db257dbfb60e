import OvnOctavia.Library.Text

/-!
What the provider asks of other services: Neutron, the Octavia driver library
and the address library. The answers are parameters; a handler runs with one
set of answers. No property of them is assumed here.
-/

namespace OvnOctavia

/-- The exceptions the provider raises or sees, by class. -/
inductive Exc where
  | rowNotFound
  | runtimeError
  | attributeError
  | keyError
  | indexError
  | typeError
  | valueError
  | unboundLocalError
  | addrFormatError
  | resourceNotFound
  | httpException
  | driverError
  | unsupportedOptionError
  | ipVersionsMixingNotSupportedError
  deriving DecidableEq

inductive IpVersion where
  | v4
  | v6
  deriving DecidableEq

/-- The protocols of `OVN_NATIVE_LB_PROTOCOLS`. -/
inductive Protocol where
  | tcp
  | udp
  | sctp
  deriving DecidableEq

structure FixedIp where
  subnetId : Str
  ipAddress : Str
  deriving DecidableEq

structure Port where
  id : Str
  networkId : Str
  fixedIps : List FixedIp
  deriving DecidableEq

structure Subnet where
  networkId : Str
  gatewayIp : Option Str
  cidr : Str
  deriving DecidableEq

structure Network where
  providerPhysicalNetwork : Option Str
  deriving DecidableEq

structure AdditionalVip where
  ipAddress : Str
  networkId : Option Str
  portId : Str
  subnetId : Option Str
  deriving DecidableEq

/-- What `octavia_driver_lib` answers about a pool, a listener, a load balancer. -/
structure ProviderPool where
  adminStateUp : Bool
  loadbalancerId : Str
  deriving DecidableEq

structure ProviderListener where
  adminStateUp : Bool
  deriving DecidableEq

structure ProviderLoadBalancer where
  adminStateUp : Bool
  vipPortId : Option Str
  vipSubnetId : Option Str
  additionalVips : List AdditionalVip
  deriving DecidableEq

structure Env where
  /-- `clients.get_neutron_client()`. -/
  neutronClient : Except Exc Unit
  getPort : Str → Except Exc Port
  listPorts : Str → Except Exc (List Port)
  /-- The ports of the given name. -/
  listPortsByName : Str → Except Exc (List Port)
  findPort : Str → Str → Except Exc (Option Port)
  createHmPort : Str → Str → Except Exc Port
  getSubnet : Str → Except Exc Subnet
  getNetwork : Str → Except Exc (Option Network)
  deletePort : Str → Except Exc Unit
  /-- `get_ip` and `update_ip` of a floating IP. -/
  updateIp : Str → Except Exc Unit
  getPool : Str → Option ProviderPool
  getListener : Str → Option ProviderListener
  getLoadbalancer : Str → Option ProviderLoadBalancer
  /-- `netaddr.IPNetwork(_).version`, nothing for a text that is no address. -/
  ipVersion : Str → Option IpVersion
  /-- `netaddr.IPNetwork(cidr).ip == netaddr.IPAddress(ip)`. -/
  sameIp : Str → Str → Except Exc Bool
  checkIpInSubnet : Str → Str → Except Exc Bool
  /-- The addresses of a `Logical_Switch_Port`, without the hardware ones. -/
  removeMacsFromLspAddresses : List Str → List Str
  areSelectionFieldsSupported : Bool
  isHealthCheckSupported : Bool

namespace Env
variable (env : Env)

/-- `netaddr.IPNetwork(ip).version`, which raises on what is no address. -/
def version (ip : Str) : Except Exc IpVersion :=
  match env.ipVersion ip with
  | some v => .ok v
  | none => .error .addrFormatError

@[simp] theorem version_eq_ok_iff {ip : Str} {v : IpVersion} :
    env.version ip = .ok v ↔ env.ipVersion ip = some v := by
  unfold version
  cases env.ipVersion ip <;> simp

end Env

end OvnOctavia
