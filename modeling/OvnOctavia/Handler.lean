import OvnOctavia.Fip

/-!
The request queue of the provider: every request goes to its handler, and the
status a handler returns is sent to Octavia. A handler that raises sends nothing.
-/

namespace OvnOctavia

inductive Request where
  | lbCreate (info : LoadBalancerInfo)
  | lbDelete (info : LoadBalancerInfo)
  | lbUpdate (info : LoadBalancerInfo)
  | listenerCreate (info : ListenerInfo)
  | listenerDelete (info : ListenerInfo)
  | listenerUpdate (info : ListenerInfo)
  | poolCreate (info : PoolInfo)
  | poolDelete (info : PoolInfo)
  | poolUpdate (info : PoolInfo)
  | memberCreate (info : MemberInfo)
  | memberDelete (info : MemberInfo)
  | memberUpdate (info : MemberInfo)
  | lbCreateLrpAssoc (network : LogicalSwitch) (router : LogicalRouter) (isGwPort : Bool)
  | lbDeleteLrpAssoc (network : LogicalSwitch) (router : LogicalRouter)
  | handleVipFip (info : FipInfo)
  | handleMemberDvr (info : MemberInfo) (added : Bool)
  | hmCreate (info : HmInfo)
  | hmUpdate (info : HmInfo)
  | hmDelete (info : HmInfo)
  | hmUpdateEvent (info : HmEventInfo)
  deriving DecidableEq

section
variable (env : Env)

/-- `_lb_request_func_maps`. -/
def handle : Request → Nbctl (Option Status)
  | .lbCreate info => some <$> lbCreate env info none
  | .lbDelete info => some <$> lbDelete env info
  | .lbUpdate info => some <$> lbUpdate env info
  | .listenerCreate info => some <$> listenerCreate env info
  | .listenerDelete info => some <$> listenerDelete env info
  | .listenerUpdate info => some <$> listenerUpdate env info
  | .poolCreate info => some <$> poolCreate env info
  | .poolDelete info => some <$> poolDelete env info
  | .poolUpdate info => some <$> poolUpdate env info
  | .memberCreate info => some <$> memberCreate env info
  | .memberDelete info => some <$> memberDelete env info
  | .memberUpdate info => some <$> memberUpdate env info
  | .lbCreateLrpAssoc network router isGwPort =>
      (fun _ => none) <$> lbCreateLrpAssoc env network router isGwPort
  | .lbDeleteLrpAssoc network router => (fun _ => none) <$> lbDeleteLrpAssoc env network router
  | .handleVipFip info => (fun _ => none) <$> handleVipFip env info
  | .handleMemberDvr info added => (fun _ => none) <$> handleMemberDvr env info added
  | .hmCreate info => some <$> hmCreate env info
  | .hmUpdate info => some <$> hmUpdate info
  | .hmDelete info => some <$> hmDelete env info
  | .hmUpdateEvent info => hmUpdateEvent env info

/-- One turn of `request_handler`: what is sent to Octavia, if anything. -/
def requestHandler (request : Request) : Nbctl (Option Status) := do
  match ← (do
    match ← handle env request with
    | none => pure none
    | some status => some <$> Prog.ofExcept (deleteDisabledFromStatus status)
      : Nbctl (Option Status)).attempt with
  | .ok sent => return sent
  | .error _ => return none

/-- The database after a request, however it ended. -/
def handled (request : Request) (nb : Nb) : Nb := ((handle env request).run Nb.apply nb).2

end

end OvnOctavia
