import OvnOctavia.Monitoring

/-!
The member requests. A member is one item of its pool's value; its admin state
is kept only as the status `OFFLINE` in the status map of the row.
-/

namespace OvnOctavia

/-- The information of a member request; a field is nothing where the dictionary
lacks the key. Of the port only the text is used. -/
structure MemberInfo where
  id : Str
  address : Option Str := none
  protocolPort : Option Str := none
  poolId : Option Str := none
  subnetId : Option Str := none
  adminStateUp : Option Bool := none
  deriving DecidableEq

/-- `_get_member_info` of a request. -/
def getMemberInfo (member : MemberInfo) : Except Exc Str :=
  match member.address, member.protocolPort with
  | some address, some port => .ok (memberText member.id address port (member.subnetId.getD []))
  | _, _ => .error .keyError

/-- The items of a pool value. -/
def poolItems (value : Str) : List Str := if value = [] then [] else value.splitOn ','

section Adding
variable (env : Env)

/-- The router of the switch of a subnet; none when either is gone. -/
def findRelatedLr (subnetId : Str) : Nbctl (Option LogicalRouter) := do
  Prog.ofExcept env.neutronClient
  match env.getSubnet subnetId with
  | .error .resourceNotFound => return none
  | .error e => throw e
  | .ok subnet =>
      let nb ← Prog.get
      match nb.switch? (.name (ovnName subnet.networkId)) with
      | none => return none
      | some ls => Prog.ofExcept (findLrOfLs env nb ls subnet.gatewayIp)

/-- The transaction that adds a member to the pool's value. -/
def addMemberOn (member : MemberInfo) (lb : LoadBalancer) (poolKey memberInfo : Str)
    (present : Dict Str Str) (items : List Str) : Nbctl Unit := do
  let value := Str.join ',' (items ++ [memberInfo])
  let refresh ←
    if member.adminStateUp = some true then
      refreshLbVips env lb (present.set poolKey value) false
    else pure []
  executeCommands (.lbUpdate lb.uuid (.setExternalIds (.single poolKey value)) :: refresh)

/-- The associations that come with a member: its switch and the switch's router. -/
def associateMember (member : MemberInfo) (lb : LoadBalancer) : Nbctl Unit :=
  match member.subnetId with
  | none => throw .keyError
  | some subnetId => do
      updateLbToLsAssociation env lb { subnetId := some subnetId }
      match ← findRelatedLr env subnetId with
      | none => pure ()
      | some lr => associateLr env lb lr

/-- `_add_member`: nothing for a member that is already there. -/
def addMember (member : MemberInfo) (lb : Option LoadBalancer) (poolKey : Str) :
    Nbctl (Option Str) :=
  match lb with
  | none => throw .attributeError
  | some lb => do
      let row ← readLb lb
      match row.externalIds.get? poolKey with
      | none => throw .keyError
      | some value =>
          let memberInfo ← Prog.ofExcept (getMemberInfo member)
          if memberInfo ∈ poolItems value then return none
          addMemberOn env member lb poolKey memberInfo row.externalIds (poolItems value)
          associateMember env member lb
          return some memberInfo

/-- The status of a created member that a health monitor watches. -/
def newMemberStatus (lb : LoadBalancer) (poolKey memberInfo : Str) : Nbctl Str := do
  let m ← Prog.ofExcept (extractMemberInfo memberInfo)
  match m with
  | [] => throw .indexError
  | m :: _ =>
      let status ← updateHmMember env lb poolKey m.ip false
      return if status = some ONLINE then ONLINE else ERROR

def memberCreate (member : MemberInfo) : Nbctl Status :=
  match member.poolId with
  | none => throw .unboundLocalError
  | some poolId => do
      let (poolKey, lb) ← findOvnLbByPoolId poolId
      let added ← (addMember env member lb poolKey).attempt
      match member.adminStateUp with
      | none => throw .keyError
      | some up =>
          let operatingStatus ←
            if !up then pure OFFLINE else
              match added, lb with
              | .error _, _ => pure ERROR
              | .ok (some memberInfo), some lb => do
                  let row ← readLb lb
                  if row.healthCheck ≠ [] then newMemberStatus env lb poolKey memberInfo
                  else pure NO_MONITOR
              | .ok _, _ => pure NO_MONITOR
          updateExternalIdsMemberStatus lb member.id (some operatingStatus)
          currentOperatingStatuses env lb

end Adding

section Removing
variable (env : Env)

/-- The transaction that takes a member out of the pool's value. -/
def removeMemberOn (lb : LoadBalancer) (poolKey : Str) (present : Dict Str Str)
    (items : List Str) : Nbctl Unit := do
  let value := Str.join ',' items
  let refresh ← refreshLbVips env lb (present.set poolKey value) false
  executeCommands (.lbUpdate lb.uuid (.setExternalIds (.single poolKey value)) :: refresh)

def removeMember (member : MemberInfo) (lb : Option LoadBalancer) (poolKey : Str) : Nbctl Unit :=
  match lb with
  | none => throw .attributeError
  | some lb => do
      let row ← readLb lb
      match row.externalIds.get? poolKey with
      | none => throw .keyError
      | some value =>
          let memberInfo ← Prog.ofExcept (getMemberInfo member)
          if memberInfo ∈ value.splitOn ',' then
            let row' ← readLb lb
            if row'.healthCheck ≠ [] then
              let _ ← updateHmMember env lb poolKey (member.address.getD []) true
            removeMemberOn env lb poolKey row.externalIds
              ((value.splitOn ',').erase memberInfo)
            updateLbToLsAssociation env lb { subnetId := member.subnetId, associate := false }

/-- The subnet of a pool item, which has to have four parts. -/
def itemSubnet (memInfo : Str) : Except Exc Str :=
  match memInfo.splitOn '_' with
  | [_, _, _, subnet] => .ok subnet
  | _ => .error .valueError

def anyInSubnet (subnetId : Str) : List Str → Except Exc Bool
  | [] => .ok false
  | m :: ms => do
      if (← itemSubnet m) = subnetId then return true
      anyInSubnet subnetId ms

def membersInSubnet (externalIds : Dict Str Str) (subnetId : Str) : Except Exc Bool :=
  anyInSubnet subnetId <| externalIds.items.flatMap fun b =>
    if Str.startsWith lbExtIdsPoolPrefix b.1 then poolItems b.2 else []

def deletedMember (id provisioningStatus : Str) : List StatusEntry :=
  [{ id := some id, provisioningStatus := some provisioningStatus }]

def memberDelete (member : MemberInfo) : Nbctl Status :=
  match member.poolId with
  | none => throw .unboundLocalError
  | some poolId => do
      let (poolKey, lb) ← findOvnLbByPoolId poolId
      let remove : Nbctl Unit := do
        removeMember env member lb poolKey
        match lb with
        | none => throw .attributeError
        | some lb =>
            let row ← readLb lb
            if row.healthCheck ≠ [] then
              match member.subnetId with
              | none => throw .keyError
              | some subnetId =>
                  let used ← Prog.ofExcept (membersInSubnet row.externalIds subnetId)
                  if !used then cleanUpHmPort env subnetId
      let removed ← remove.attempt
      updateExternalIdsMemberStatus lb member.id none
      let status ← currentOperatingStatuses env lb
      return { status with
        members := some (deletedMember member.id (if removed.isOk then DELETED else ERROR)) }

end Removing

section Updating
variable (env : Env)

/-- The status an update gives the member: what a health monitor last recorded
counts for an enabled one. -/
def updatedStatus (row : LoadBalancer) (lastStatus : Str) (up : Bool) : Str :=
  if up then if row.healthCheck ≠ [] then lastStatus else NO_MONITOR else OFFLINE

def memberUpdateOn (memberId : Str) (lb : LoadBalancer) (lastStatus operatingStatus : Str) :
    Nbctl Unit := do
  updateExternalIdsMemberStatus (some lb) memberId (some operatingStatus)
  if (lastStatus ≠ OFFLINE ∧ operatingStatus = OFFLINE) ∨
      (lastStatus = OFFLINE ∧ operatingStatus ≠ OFFLINE) then
    let row ← readLb lb
    let refresh ← refreshLbVips env lb row.externalIds false
    executeCommands refresh

/-- The operating status an update reports, and whether it went through. -/
def memberUpdateStatus (member : MemberInfo) (lb : Option LoadBalancer) : Nbctl (Str × Bool) :=
  match lb with
  | none => pure (NO_MONITOR, false)
  | some lb => do
      match ← (readMemberStatus lb member.id).attempt with
      | .error _ => return (NO_MONITOR, false)
      | .ok lastStatus =>
          match member.adminStateUp with
          | none => return (NO_MONITOR, true)
          | some up =>
              let row ← readLb lb
              let operatingStatus := updatedStatus row lastStatus up
              let updated ← (memberUpdateOn env member.id lb lastStatus operatingStatus).attempt
              return (operatingStatus, updated.isOk)

def memberUpdate (member : MemberInfo) : Nbctl Status :=
  match member.poolId with
  | none => throw .unboundLocalError
  | some poolId => do
      let (_, lb) ← findOvnLbByPoolId poolId
      let (operatingStatus, updated) ← memberUpdateStatus env member lb
      let status ← currentOperatingStatuses env lb
      return { status with
        members := some [⟨some member.id, some (if updated then ACTIVE else ERROR),
          some operatingStatus⟩] }

end Updating

section Dvr
variable (env : Env)

/-- `handle_member_dvr`: the floating IP of a member behind a load balancer with
a floating IP is centralised when the member comes and recomputed when it goes. -/
def handleMemberDvr (member : MemberInfo) (added : Bool) : Nbctl Unit :=
  match member.poolId with
  | none => throw .keyError
  | some poolId => do
      let (_, lb) ← findOvnLbByPoolId poolId
      match lb with
      | none => throw .attributeError
      | some lb =>
          let row ← readLb lb
          if lbFips row.externalIds = [] then pure () else
            Prog.ofExcept env.neutronClient
            match member.subnetId, member.address with
            | some subnetId, some address =>
                match env.getSubnet subnetId with
                | .error .resourceNotFound => pure ()
                | .error e => throw e
                | .ok subnet =>
                    let nb ← Prog.get
                    let port := (nb.switch? (.name (ovnName subnet.networkId))).bind fun ls =>
                      ls.ports.find? fun port =>
                        (env.removeMacsFromLspAddresses port.addresses).contains address
                    let nat := port.bind fun port => nb.nats.find? fun nat =>
                      nat.externalIds.get? ovnFipPortExtIdKey = some port.name
                    match nat with
                    | none => pure ()
                    | some nat =>
                        if added then
                          Prog.transaction [.natClearExternalMac nat.uuid]
                          Prog.transaction [.natClearLogicalPort nat.uuid]
                        else
                          match nat.externalIds.get? ovnFipExtIdKey with
                          | none => throw .keyError
                          | some fip =>
                              match env.updateIp fip with
                              | .ok _ | .error .resourceNotFound => pure ()
                              | .error e => throw e
            | _, _ => throw .keyError

end Dvr

end OvnOctavia
