import OvnOctavia.Library.Json
import OvnOctavia.Library.Fallible
import OvnOctavia.Northbound

/-!
How Octavia objects are written into the `external_ids` of a load balancer row:
the key and the value of a listener, of a pool, of a pool's members, and the
status map of the members. The status map is written by the provider only, so
only the layout of its own writer is read back.
-/

namespace OvnOctavia

section Constants

def lbExtIdsVipKey : Str := "neutron:vip".toList
def lbExtIdsAdditVipKey : Str := "neutron:additional_vips".toList
def lbExtIdsVipPortIdKey : Str := "neutron:vip_port_id".toList
def lbExtIdsAdditVipPortIdKey : Str := "neutron:additional_vip_port_ids".toList
def lbExtIdsVipFipKey : Str := "neutron:vip_fip".toList
def lbExtIdsAdditVipFipKey : Str := "neutron:additional_vip_fips".toList
def lbExtIdsLsRefsKey : Str := "ls_refs".toList
def lbExtIdsLrRefKey : Str := "lr_ref".toList
def lbExtIdsHmKey : Str := "octavia:healthmonitor".toList
def lbExtIdsHmPoolKey : Str := "octavia:pool_id".toList
def lbExtIdsHmVip : Str := "octavia:vip".toList
def lbExtIdsHmsKey : Str := "octavia:healthmonitors".toList
def ovnMemberStatusKey : Str := "neutron:member_status".toList
def ovnDeviceOwnerExtIdKey : Str := "neutron:device_owner".toList
def enabledKey : Str := "enabled".toList
def lbExtIdsListenerPrefix : Str := "listener_".toList
def lbExtIdsPoolPrefix : Str := "pool_".toList
def lbExtIdsMemberPrefix : Str := "member_".toList
def disabledResourceSuffix : Str := "D".toList
def portForwardingPlugin : Str := "port_forwarding_plugin".toList
def affinityTimeout : Str := "affinity_timeout".toList

def ACTIVE : Str := "ACTIVE".toList
def DELETED : Str := "DELETED".toList
def ONLINE : Str := "ONLINE".toList
def OFFLINE : Str := "OFFLINE".toList
def DEGRADED : Str := "DEGRADED".toList
def ERROR : Str := "ERROR".toList
def NO_MONITOR : Str := "NO_MONITOR".toList

end Constants

/-- `str(b)`. -/
def strBool (b : Bool) : Str := if b then "True".toList else "False".toList

/-- `ovn_name`: the name of the OVN entry of a Neutron object. -/
def ovnName (id : Str) : Str :=
  if Str.startsWith "neutron-".toList id then id else "neutron-".toList ++ id

/-- `ovn_uuid`. -/
def ovnUuid (name : Str) : Str := Str.replace "neutron-".toList [] name

section Keys

/-- A listener or pool key is its prefix and id, with `:D` when disabled. -/
def getListenerKey (listenerId : Str) (isEnabled : Bool) : Str :=
  lbExtIdsListenerPrefix ++ listenerId ++
    if isEnabled then [] else ':' :: disabledResourceSuffix

def getPoolKey (poolId : Str) (isEnabled : Bool) : Str :=
  lbExtIdsPoolPrefix ++ poolId ++ if isEnabled then [] else ':' :: disabledResourceSuffix

def makeListenerKeyValue (listenerPort : Nat) (poolId : Str) : Str :=
  Str.ofNat listenerPort ++ ':' :: poolId

/-- The port and pool key in a listener value; nothing unless there is one colon. -/
def extractListenerKeyValue (listenerValue : Str) : Option (Str × Str) :=
  match listenerValue.splitOn ':' with
  | [port, pool] => some (port, pool)
  | _ => none

def isListenerDisabled (listenerKey : Str) : Bool :=
  match listenerKey.splitOn ':' with
  | [_, d] => d = disabledResourceSuffix
  | _ => false

/-- `listener_ in k`, the test that picks the listener keys of a row. -/
def hasListenerPrefix (k : Str) : Bool := Str.contains lbExtIdsListenerPrefix k

def hasPoolPrefix (k : Str) : Bool := Str.contains lbExtIdsPoolPrefix k

def isLbEmpty (externalIds : Dict Str Str) : Bool :=
  !externalIds.keys.any fun k =>
    Str.startsWith "listener".toList k || Str.startsWith "pool".toList k

def isListenerInLb (externalIds : Dict Str Str) : Bool :=
  externalIds.keys.any (Str.startsWith lbExtIdsListenerPrefix)

/-- The listeners whose value names `poolKey`, as the key's text after its prefix. -/
def getPoolListeners (externalIds : Dict Str Str) (poolKey : Str) : List Str :=
  externalIds.items.filterMap fun (k, v) =>
    if hasListenerPrefix k && (extractListenerKeyValue v).map Prod.snd = some poolKey then
      some (k.drop lbExtIdsListenerPrefix.length)
    else none

def getPoolListenerPort (externalIds : Dict Str Str) (poolKey : Str) : Option Str :=
  (externalIds.items.filterMap fun (k, v) =>
    if hasListenerPrefix k && (extractListenerKeyValue v).map Prod.snd = some poolKey then
      (extractListenerKeyValue v).map Prod.fst
    else none).head?

end Keys

section Members

/-- A member as its pool entry shows it. -/
structure MemberData where
  ip : Str
  port : Str
  subnet : Str
  id : Str
  deriving DecidableEq

/-- The parts of `member_<id>_<ip>:<port>_<subnet>`. -/
def extractMember (mem : Str) : Except Exc MemberData :=
  match mem.splitOn '_' with
  | _ :: id :: ipPort :: subnet :: _ =>
      match Str.rsplit ':' ipPort with
      | some (ip, port) => .ok { ip, port, subnet, id }
      | none => .error .valueError
  | [_, _, ipPort] =>
      match Str.rsplit ':' ipPort with
      | some _ => .error .indexError
      | none => .error .valueError
  | _ => .error .indexError

def extractMemberInfo (member : Str) : Except Exc (List MemberData) :=
  if member = [] then .ok [] else (member.splitOn ',').mapM extractMember

/-- `mem_info.split('_')[1]`. -/
def memberIdOf (memInfo : Str) : Except Exc Str :=
  match memInfo.splitOn '_' with
  | _ :: id :: _ => .ok id
  | _ => .error .indexError

/-- The text of a member from the parts a request or an Octavia object gives. -/
def memberText (id address protocolPort subnetId : Str) : Str :=
  lbExtIdsMemberPrefix ++ id ++ '_' :: (address ++ ':' :: (protocolPort ++ '_' :: subnetId))

/-- The member statuses of a row; no map at all is the empty map. -/
def loadMemberStatuses (externalIds : Dict Str Str) : Except Exc (Dict Str Str) :=
  match externalIds.get? ovnMemberStatusKey with
  | none => .ok ∅
  | some t =>
      match Json.loadsTexts t with
      | some d => .ok d
      | none => .error .valueError

def findMemberStatus (externalIds : Dict Str Str) (memberId : Str) : Except Exc Str :=
  (loadMemberStatuses externalIds).map fun d => (d.get? memberId).getD NO_MONITOR

end Members

end OvnOctavia
