import OvnOctavia.MemberOutcomes
import OvnOctavia.RequestKeys

/-!
What a request on listeners, pools and members does to a row, said once: every
row of the load balancer after the request comes from a row before it, or from a
row provided for a further protocol, by one of the effects listed. The rows of
other load balancers keep their objects.
-/

namespace OvnOctavia

section Rows

/-- The same row but for the protocol and the peripheral keys. -/
structure LoadBalancer.SameContent (lb lb' : LoadBalancer) : Prop where
  vips : lb'.vips = lb.vips
  externalIds : SameKeys lb.externalIds lb'.externalIds
  unmonitored : lb.healthCheck = [] → lb'.healthCheck = []

theorem LoadBalancer.SameContent.refl (lb : LoadBalancer) : lb.SameContent lb :=
  ⟨rfl, .refl _, id⟩

theorem LoadBalancer.SameContent.trans {a b c : LoadBalancer} (h : a.SameContent b)
    (h' : b.SameContent c) : a.SameContent c :=
  ⟨h'.vips.trans h.vips, h.externalIds.trans h'.externalIds, h'.unmonitored ∘ h.unmonitored⟩

theorem LoadBalancer.SameObjects.content {lb lb' : LoadBalancer} (h : lb.SameObjects lb') :
    lb.SameContent lb' :=
  ⟨h.vips, h.externalIds, h.unmonitored⟩

variable {nb nb' : Nb} {row new row' : LoadBalancer} {name : Str}

/-- A row after an update of one row is the updated one or another one. -/
theorem Nb.named_putLb (h : nb.lb? row.uuid = some row)
    (hm : row' ∈ (nb.putLb new).lbsNamed name) (hu : new.uuid = row.uuid) :
    row' = new ∨ row' ∈ nb.lbsNamed name ∧ row'.uuid ≠ row.uuid := by
  obtain ⟨hm, hn⟩ := Nb.mem_lbsNamed.mp hm
  rcases (Nb.mem_putLb (hu.symm ▸ h)).mp hm with rfl | ⟨hm, hne⟩
  · exact .inl rfl
  · exact .inr ⟨Nb.mem_lbsNamed.mpr ⟨hm, hn⟩, hu ▸ hne⟩

theorem Nb.named_deleteLb {u : Nat} (hm : row' ∈ (nb.deleteLb u).lbsNamed name) :
    row' ∈ nb.lbsNamed name ∧ row'.uuid ≠ u := by
  obtain ⟨hm, hn⟩ := Nb.mem_lbsNamed.mp hm
  rw [Nb.loadBalancers_deleteLb, List.mem_filter] at hm
  exact ⟨Nb.mem_lbsNamed.mpr ⟨hm.1, hn⟩, by simpa using hm.2⟩

/-- After cleaning there is the updated row, perhaps without protocol, or another
one. -/
theorem Nb.named_cleaned (h : nb.lb? row.uuid = some row) {lbId : Str} {isEmpty : Bool}
    (hm : row' ∈ (nb.cleaned lbId isEmpty new).lbsNamed name) (hu : new.uuid = row.uuid) :
    new.SameContent row' ∨ row' ∈ nb.lbsNamed name ∧ row'.uuid ≠ row.uuid := by
  have hput : ∀ new', new'.uuid = new.uuid → new.SameContent new' →
      row' ∈ (nb.putLb new').lbsNamed name →
        new.SameContent row' ∨ row' ∈ nb.lbsNamed name ∧ row'.uuid ≠ row.uuid := by
    intro new' hu' hs hm
    rcases Nb.named_putLb h hm (hu'.trans hu) with rfl | hm
    · exact .inl hs
    · exact .inr hm
  rw [Nb.cleaned] at hm
  cases isEmpty with
  | false => exact hput new rfl (.refl new) hm
  | true =>
      rw [if_pos rfl] at hm
      split at hm
      · exact hput new rfl (.refl new) hm
      · exact hput { new with protocol := none } rfl ⟨rfl, .refl _, id⟩ hm
      · exact .inr (hu ▸ Nb.named_deleteLb hm)

end Rows

section Requests

/-- A request leaves a row alone that does not have its object. -/
def Request.Spares (row : LoadBalancer) : Request → Prop
  | .listenerUpdate info => info.defaultPoolId = none ∨
      ∀ up, getListenerKey info.id up ∉ row.externalIds.keys
  | .poolDelete info => ∀ up, getPoolKey info.id up ∉ row.externalIds.keys
  | .memberUpdate info => info.adminStateUp = none ∨
      ∀ poolId, info.poolId = some poolId → ∀ up, getPoolKey poolId up ∉ row.externalIds.keys
  | .memberCreate info | .memberDelete info =>
      ∀ poolId, info.poolId = some poolId → ∀ up, getPoolKey poolId up ∉ row.externalIds.keys
  | _ => True

/-- The member a request is about. -/
def MemberInfo.Describes (info : MemberInfo) (d : MemberData) : Prop :=
  info.id = d.id ∧ info.address = some d.ip ∧ info.protocolPort = some d.port ∧
    info.subnetId = some d.subnet

theorem MemberInfo.Describes.text {info : MemberInfo} {d : MemberData} (h : info.Describes d) :
    getMemberInfo info = .ok d.text := by
  obtain ⟨hid, ha, hp, hs⟩ := h
  rw [getMemberInfo, ha, hp, hs, hid]
  rfl

/-- The admin state a request gives to the object it creates. -/
def Request.createdUp : Request → Option Bool
  | .listenerCreate info => info.adminStateUp
  | .poolCreate info => info.adminStateUp
  | _ => none

/-- A request of the load balancer on its listeners, pools and members, as Octavia
makes them: new objects have new ids, requests on an object name its own protocol
or pool. -/
def IsLbRequest (env : Env) (h : History) : Request → Prop
  | .listenerCreate info => info.loadbalancerId = h.lbId ∧ IsUuid info.id ∧ info.id ∉ h.taken
  | .listenerUpdate info => info.loadbalancerId = h.lbId ∧ IsUuid info.id ∧
      h.HasListener info.id info.protocol
  | .listenerDelete info => info.loadbalancerId = h.lbId ∧ IsUuid info.id
  | .poolCreate info => info.loadbalancerId = h.lbId ∧ IsUuid info.id ∧ info.id ∉ h.taken ∧
      ∀ l, listenerOf info = some l → IsUuid l
  | .poolUpdate info => info.loadbalancerId = h.lbId ∧ IsUuid info.id
  | .poolDelete info => info.loadbalancerId = h.lbId ∧ h.HasPool info.id info.protocol
  | .memberCreate info => ∃ poolId p d, info.poolId = some poolId ∧ h.HasPool poolId p ∧
      info.Describes d ∧ d.WellFormed env ∧ info.adminStateUp.isSome
  | .memberUpdate info => ∃ poolId p, info.poolId = some poolId ∧ h.HasPool poolId p
  | .memberDelete info => ∃ poolId p d, info.poolId = some poolId ∧ h.HasPool poolId p ∧
      info.Describes d ∧ d.WellFormed env
  | _ => False

end Requests

section Effects
variable (env : Env) (nb : Nb)

/-- What adding a member does to its row: the member is there already, or comes
last. -/
def AddsMember (info : MemberInfo) (key value : Str) (row row₁ : LoadBalancer) : Prop :=
  (∃ text, getMemberInfo info = .ok text ∧ text ∈ poolItems value ∧ row₁ = row) ∨
    ∃ text vips, getMemberInfo info = .ok text ∧ text ∉ poolItems value ∧
      (if info.adminStateUp = some true then
          frameVipIps env row.externalIds (row.externalIds.set key
            (Str.join ',' (poolItems value ++ [text])))
        else .ok row.vips) = .ok vips ∧
      row₁ = { row with
        externalIds := row.externalIds.set key (Str.join ',' (poolItems value ++ [text])), vips }

/-- What removing a member does to its row. Where health checks are in place, the
member stays when its mapping cannot be removed. -/
def RemovesMember (info : MemberInfo) (key value : Str) (row row₁ : LoadBalancer) : Prop :=
  (row₁ = row ∧
      ((∃ text, getMemberInfo info = .ok text ∧ text ∉ value.splitOn ',') ∨
        row.healthCheck ≠ [] ∧ ∃ e nb₁,
          (updateHmMember env row key (info.address.getD []) true).run Nb.apply nb =
            (.error e, nb₁))) ∨
    ∃ text row₀ vips, getMemberInfo info = .ok text ∧ text ∈ value.splitOn ',' ∧
      row.SameContent row₀ ∧
      frameVipIps env row₀.externalIds (row.externalIds.set key
        (Str.join ',' ((value.splitOn ',').erase text))) = .ok vips ∧
      row₁ = { row₀ with
        externalIds := row₀.externalIds.set key (Str.join ',' ((value.splitOn ',').erase text))
        vips }

/-- The row with another status map. -/
def LoadBalancer.record (row : LoadBalancer) (member : Str) (status : Option Str) : LoadBalancer :=
  { row with externalIds :=
      withStatuses row.externalIds (withStatus (statusesIn row.externalIds) member status) }

inductive Effect : Request → LoadBalancer → LoadBalancer → Prop
  | spared {r : Request} {row row' : LoadBalancer} (h : r.Spares row) (hs : row.SameContent row') :
      Effect r row row'
  | listenerCreated {info : ListenerInfo} {up : Bool} {vips : Dict Str Str}
      {row row' : LoadBalancer} (hup : info.adminStateUp = some up)
      (hf : frameVipIps env row.externalIds (row.externalIds.set (getListenerKey info.id up)
        (makeListenerKeyValue info.protocolPort (defaultPoolKey info))) = .ok vips)
      (hs : LoadBalancer.SameContent { row with
        externalIds := row.externalIds.set (getListenerKey info.id up)
          (makeListenerKeyValue info.protocolPort (defaultPoolKey info))
        vips } row') : Effect (.listenerCreate info) row row'
  | listenerDeleted {info : ListenerInfo} {vips : Dict Str Str} {row row' : LoadBalancer}
      (hf : frameVipIps env row.externalIds
        (row.externalIds.erase (getListenerKey info.id true)) = .ok vips)
      (hs : LoadBalancer.SameContent { row with
        externalIds := row.externalIds.erase (getListenerKey info.id true), vips } row') :
      Effect (.listenerDelete info) row row'
  | listenerUpdated {info : ListenerInfo} {key value : Str} {vips : Dict Str Str}
      {row row' : LoadBalancer} (hkey : presentListenerKey row.externalIds info.id = some key)
      (hv : row.externalIds.get? key = some value)
      (hf : frameVipIps env row.externalIds
        (updatedListenerKeys info key value row.externalIds) = .ok vips)
      (hs : LoadBalancer.SameContent { row with
        externalIds := updatedListenerKeys info key value row.externalIds, vips } row') :
      Effect (.listenerUpdate info) row row'
  | poolCreated {info : PoolInfo} {up : Bool} {row row' : LoadBalancer}
      (hup : info.adminStateUp = some up)
      (hs : LoadBalancer.SameContent { row with
        externalIds := poolCreateExternalIds info up row.externalIds } row') :
      Effect (.poolCreate info) row row'
  | poolDeleted {info : PoolInfo} {vips : Dict Str Str} {row row' : LoadBalancer}
      (hf : (if row.externalIds.contains (getPoolKey info.id true) then
          frameVipIps env row.externalIds (row.externalIds.erase (getPoolKey info.id true))
        else .ok row.vips) = .ok vips)
      (hs : LoadBalancer.SameContent { row with
        externalIds := poolDeletedKeys info.id row.externalIds, vips } row') :
      Effect (.poolDelete info) row row'
  | poolUpdated {info : PoolInfo} {up : Bool} {vips : Dict Str Str} {row row' : LoadBalancer}
      (hup : info.adminStateUp = some up)
      (hf : (if row.externalIds.contains (getPoolKey info.id (!up)) then
          frameVipIps env row.externalIds (movedPoolKeys (getPoolKey info.id (!up))
            (getPoolKey info.id up) row.externalIds)
        else .ok row.vips) = .ok vips)
      (hs : LoadBalancer.SameContent { row with
        externalIds := movedPoolKeys (getPoolKey info.id (!up)) (getPoolKey info.id up)
          row.externalIds
        vips } row') : Effect (.poolUpdate info) row row'
  | memberCreated {info : MemberInfo} {poolId value : Str} {b : Bool}
      {row row₁ row₂ row' : LoadBalancer} (hp : info.poolId = some poolId)
      (hv : row.externalIds.get? (getPoolKey poolId b) = some value)
      (hadd : AddsMember env info (getPoolKey poolId b) value row row₁) (hs : row₁.SameContent row₂)
      (hst : row' = row₂ ∧ info.adminStateUp = some true ∧ row.healthCheck ≠ [] ∨
        ∃ up status, info.adminStateUp = some up ∧ (up = false ↔ status = OFFLINE) ∧
          row' = row₂.record info.id (some status)) : Effect (.memberCreate info) row row'
  | memberDeleted {info : MemberInfo} {poolId value : Str} {b : Bool}
      {row row₁ row₂ row' : LoadBalancer} (hp : info.poolId = some poolId)
      (hv : row.externalIds.get? (getPoolKey poolId b) = some value)
      (hrem : RemovesMember env nb info (getPoolKey poolId b) value row row₁)
      (hs : row₁.SameContent row₂) (hst : row' = row₂.record info.id none) :
      Effect (.memberDelete info) row row'
  | memberUpdated {info : MemberInfo} {poolId lastStatus status : Str} {b up : Bool}
      {vips : Dict Str Str} {row row' : LoadBalancer} (hp : info.poolId = some poolId)
      (hk : getPoolKey poolId b ∈ row.externalIds.keys) (hup : info.adminStateUp = some up)
      (hlast : lastStatus = ((statusesIn row.externalIds).get? info.id).getD NO_MONITOR)
      (hstatus : status = updatedStatus row lastStatus up)
      (hvips : ¬IsToggled lastStatus status ∧ vips = row.vips ∨
        frameVipIps env (row.record info.id (some status)).externalIds
          (row.record info.id (some status)).externalIds = .ok vips)
      (hrow : row' = { row.record info.id (some status) with vips }) :
      Effect (.memberUpdate info) row row'

/-- Where a row before a request comes from: it was there, or it was provided for
another protocol with the fixed keys of a row that was there. -/
inductive Source (h : History) (r : Request) : LoadBalancer → Prop
  | present {old row : LoadBalancer} (hold : old ∈ nb.lbsNamed h.lbId)
      (hs : old.SameContent row) : Source h r row
  | provided {first new row : LoadBalancer} {vip vipPortId : Str} {up : Bool}
      {alg : Option LbAlgorithm} (hfirst : first ∈ nb.lbsNamed h.lbId)
      (hup : r.createdUp = some up) (hvip : first.externalIds.get? lbExtIdsVipKey = some vip)
      (he : new.externalIds = addVipKeys (copyLbInfo env h.lbId first up alg)
        (baseExternalIds vip vipPortId up))
      (hv : new.vips = ∅) (hc : new.healthCheck = []) (hs : new.SameContent row) : Source h r row

end Effects

end OvnOctavia
