import OvnOctavia.MonitoredMembers
import OvnOctavia.Reenabling

/-!
Runs of requests on the members and the monitors of a row. A member is found when its
port was while its pool was monitored. The mapping of its address is lost when another
member with the address is deleted, and when the mappings of a pool are cleaned while
nothing protects the address.
-/

namespace OvnOctavia

section Addresses
variable {env env' : Env} (he : env'.ipVersion = env.ipVersion)
include he

theorem mappingKey_env (ip : Str) : mappingKey env' ip = mappingKey env ip := by
  rw [mappingKey, mappingKey, he]

theorem MemberData.WellFormed.of_env {d : MemberData} (h : d.WellFormed env) :
    d.WellFormed env' :=
  ⟨h.id, by rw [he]; exact h.address, h.ip_chars, h.port_chars, h.subnet_chars⟩

theorem Readable.of_env {e : Dict Str Str} (h : Readable env e) : Readable env' e := by
  refine ⟨h.key, h.statuses, h.listener, fun id up v hid hv => ?_, h.sole,
    fun a ha => by rw [he]; exact h.vips a ha, fun a ha => by rw [he]; exact h.fips a ha⟩
  obtain ⟨ds, hv, hds⟩ := h.pool id up v hid hv
  exact ⟨ds, hv, fun d hd => (hds d hd).of_env he⟩

/-- Only how addresses are read matters to a row. -/
theorem Tended.of_env {nb : Nb} {row : LoadBalancer} (h : Tended env nb row) :
    Tended env' nb row :=
  ⟨h.watched, h.table, h.readable.of_env he, h.hms, h.vip, fun a ha =>
    by rw [he]; exact h.fips a ha⟩

end Addresses

/-- The pool has the member. -/
def LoadBalancer.Lists (row : LoadBalancer) (poolId : Str) (d : MemberData) : Prop :=
  ∃ up, row.ListsUnder (getPoolKey poolId up) d

/-- A health check of the row is of the pool. -/
def Nb.HasMonitor (nb : Nb) (row : LoadBalancer) (poolId : Str) : Prop :=
  ∃ hc ∈ nb.checksOf row, hc.externalIds.get? lbExtIdsHmPoolKey = some poolId

section Steps
variable {env env' : Env} {F : Str → MemberData → Prop} {nb nb' : Nb} {row row' : LoadBalancer}
  {ds l : List MemberData} {d o : MemberData} {key k poolId : Str} {up : Bool}

theorem listsUnder_congr (h : row'.externalIds.get? k = row.externalIds.get? k) :
    row'.ListsUnder k o ↔ row.ListsUnder k o := by
  simp only [LoadBalancer.ListsUnder, h]

/-- The members of a pool that was found on the row. -/
theorem Tended.members (h : Tended env nb row) (hid : IsUuid poolId)
    (hfound : nb.poolRow poolId = (getPoolKey poolId up, some row)) :
    ∃ ds, row.externalIds.get? (getPoolKey poolId up) = some (poolValue ds) ∧
      ∀ d ∈ ds, d.WellFormed env := by
  obtain ⟨value, hm⟩ := (Dict.mem_keys_iff _ _).mp (Nb.poolRow_eq_some hfound).2.1
  have hv := (Dict.get?_eq_some_iff _ _ _).mpr hm
  obtain ⟨ds, rfl, hds⟩ := h.readable.pool _ _ _ hid hv
  exact ⟨ds, hv, hds⟩

/-- What a run keeps: the row is tended, and the addresses of the members found are mapped. -/
structure Minded (env : Env) (F : Str → MemberData → Prop) (nb : Nb) (row : LoadBalancer) :
    Prop where
  tended : Tended env nb row
  apart : row.IdsApart
  monitored : ∀ poolId d, F poolId d → row.Lists poolId d ∧ nb.HasMonitor row poolId
  mapped : ∀ poolId d, F poolId d → mappingKey env d.ip ∈ row.ipPortMappings.keys

theorem LoadBalancer.IdsApart.of_pools (h : row.IdsApart)
    (hp : ∀ k, hasPoolPrefix k = true → row'.externalIds.get? k = row.externalIds.get? k) :
    row'.IdsApart := fun k k' d o hk hk' hd ho =>
  h k k' d o hk hk' ((listsUnder_congr (hp k hk)).mp hd) ((listsUnder_congr (hp k' hk')).mp ho)

theorem Minded.of_env (h : Minded env F nb row) (he : env'.ipVersion = env.ipVersion) :
    Minded env' F nb row :=
  ⟨h.tended.of_env he, h.apart, h.monitored, fun P d hF => by
    rw [mappingKey_env he]
    exact h.mapped P d hF⟩

end Steps

section Example

/-- The member of the example on another port. -/
def exampleTwin : MemberData := ⟨"10.0.0.7".toList, "81".toList, "sub".toList, exampleId 'f'⟩

theorem wellFormed_exampleTwin : exampleTwin.WellFormed exampleEnv := by
  have hport : exampleTwin.port = ['8', '1'] := rfl
  exact ⟨isUuid_exampleId (by decide), rfl, by decide, by rw [hport]; simp, by decide⟩

def exampleTwinsRow : LoadBalancer :=
  { uuid := 2, name := exampleId 'a', protocol := some .tcp, vips := ∅
    externalIds := exampleServingKeys.set (getPoolKey (exampleId 'c') true)
      (poolValue [exampleServer, exampleTwin])
    options := ∅, selectionFields := [], healthCheck := [], ipPortMappings := ∅ }

/-- The port of the members on the switch of the network. -/
def exampleTwinsPort : LogicalSwitchPort :=
  ⟨"vm".toList, [], .single ovnNetworkNameExtIdKey "neutron-net".toList, ∅, ["10.0.0.7".toList]⟩

def exampleTwinsNb : Nb := { exampleNb with
  loadBalancers := [exampleTwinsRow]
  switches := [⟨1, "neutron-net".toList, [2], [exampleTwinsPort]⟩], nextUuid := 3 }

theorem exampleTwins_wellFormed :
    ∀ d ∈ [exampleServer, exampleTwin], d.WellFormed exampleEnv := by
  intro d hd
  rcases List.mem_cons.mp hd with rfl | hd
  · exact wellFormed_exampleServer
  · rw [List.mem_singleton.mp hd]
    exact wellFormed_exampleTwin

end Example

end OvnOctavia
