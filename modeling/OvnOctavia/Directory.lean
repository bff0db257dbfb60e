import OvnOctavia.IsolatedRequests
import OvnOctavia.ProtocolRows

/-!
Octavia knows of every object the load balancer it belongs to, and a pool's
protocol. In a database such a directory describes, the requests of one load
balancer leave the others alone: their rows, the health checks attached to them, and
their links from switches and routers. The requests of listeners, pools and members
also leave alone what belongs to the other protocols of their load balancer.
-/

namespace OvnOctavia

structure Directory where
  loadBalancer : Str → Str
  protocol : Str → Protocol

/-- Ids are unique across load balancers, and a pool's key is on the row of the pool's
protocol. -/
structure Directory.Describes (d : Directory) (nb : Nb) : Prop where
  wellFormed : nb.WellFormed
  checks : ∀ row ∈ nb.loadBalancers, ∀ u ∈ row.healthCheck, u < nb.nextUuid
  attached : ∀ row ∈ nb.loadBalancers, ∀ row' ∈ nb.loadBalancers, ∀ u ∈ row.healthCheck,
    u ∈ row'.healthCheck → row'.uuid = row.uuid
  pools : ∀ row ∈ nb.loadBalancers, ∀ k ∈ row.externalIds.keys,
    Str.startsWith lbExtIdsPoolPrefix k = true →
    ∃ id up, k = getPoolKey id up ∧ IsUuid id ∧ row.name = d.loadBalancer id ∧
      row.protocol = some (d.protocol id)
  monitors : ∀ row ∈ nb.loadBalancers, ∀ t, row.externalIds.get? lbExtIdsHmsKey = some t →
    ∃ l, t = Json.dumpsList l ∧ ∀ id ∈ l, IsUuid id ∧ row.name = d.loadBalancer id
  monitored : ∀ row ∈ nb.loadBalancers, ∀ hc ∈ nb.healthChecks, hc.uuid ∈ row.healthCheck →
    ∀ id, hc.externalIds.get? lbExtIdsHmKey = some id → row.name = d.loadBalancer id

section Requests
variable (d : Directory)

/-- The request is one of the load balancer, of its listeners, pools and members, or of
its health monitors. -/
def Request.Concerns (lbId : Str) : Request → Prop
  | lbCreate info | lbDelete info | lbUpdate info => info.id = lbId
  | listenerCreate info | listenerDelete info | listenerUpdate info => info.loadbalancerId = lbId
  | poolCreate info | poolDelete info | poolUpdate info => info.loadbalancerId = lbId
  | memberCreate info | memberDelete info | memberUpdate info =>
      ∀ poolId, info.poolId = some poolId → IsUuid poolId ∧ d.loadBalancer poolId = lbId
  | hmCreate info | hmUpdate info | hmDelete info =>
      (IsUuid info.poolId ∧ d.loadBalancer info.poolId = lbId) ∧
        IsUuid info.id ∧ d.loadBalancer info.id = lbId
  | _ => False

/-- The protocol a request is confined to. -/
def Request.protocol : Request → Option Protocol
  | listenerCreate info | listenerDelete info | listenerUpdate info => some info.protocol
  | poolCreate info | poolDelete info | poolUpdate info => some info.protocol
  | memberCreate info | memberDelete info | memberUpdate info => info.poolId.map d.protocol
  | _ => none

end Requests

/-- `nb'` shows the others as `nb` does. -/
structure Undisturbed (lbId : Str) (protocol : Option Protocol) (nb nb' : Nb) : Prop where
  rows : nb'.loadBalancers.filter (isOther lbId protocol) =
    nb.loadBalancers.filter (isOther lbId protocol)
  checks : ∀ row, Others lbId protocol nb row → ∀ u ∈ row.healthCheck, nb'.hc? u = nb.hc? u
  switches : List.Forall₂ (fun ls ls' : LogicalSwitch => ls'.uuid = ls.uuid ∧ ls'.name = ls.name ∧
    SameLinks lbId protocol nb ls.loadBalancer ls'.loadBalancer) nb.switches nb'.switches
  routers : List.Forall₂ (fun lr lr' : LogicalRouter => lr'.uuid = lr.uuid ∧ lr'.name = lr.name ∧
    SameLinks lbId protocol nb lr.loadBalancer lr'.loadBalancer) nb.routers nb'.routers

theorem Isolated.undisturbed {lbId : Str} {protocol : Option Protocol} {nb nb' : Nb}
    {K : Str → Prop} (h : Isolated lbId protocol nb K nb') : Undisturbed lbId protocol nb nb' :=
  ⟨h.rows, h.checks, h.switches, h.routers⟩

theorem Others.name_ne {lbId : Str} {nb : Nb} {row : LoadBalancer} (ho : Others lbId none nb row) :
    row.name ≠ lbId := by
  have h := of_decide_eq_true ho.2
  simpa using h

theorem idOfKey_poolKey {id : Str} (h : IsUuid id) (up : Bool) :
    idOfKey (getPoolKey id up) = .ok (id ++ if up then [] else ':' :: disabledResourceSuffix) := by
  have hid : '_' ∉ id ++ if up then [] else ':' :: disabledResourceSuffix := by
    have := h.notMem (c := '_') (by decide)
    cases up <;> simp [this, disabledResourceSuffix]
  have hkey : getPoolKey id up =
      "pool".toList ++ '_' :: (id ++ if up then [] else ':' :: disabledResourceSuffix) := by
    simp [getPoolKey, lbExtIdsPoolPrefix]
  rw [idOfKey, memberIdOf, hkey, List.splitOn_append_cons_self_of_not_mem (by decide),
    List.splitOn_eq_singleton hid]

namespace Directory.Describes
variable {d : Directory} {nb : Nb} (hd : d.Describes nb)
include hd

theorem isolated {lbId : Str} {protocol : Option Protocol} {K : Str → Prop}
    (hK : ∀ row ∈ nb.loadBalancers, isOther lbId protocol row = false →
      ∀ k ∈ row.externalIds.keys, K k) : Isolated lbId protocol nb K nb := by
  have hne : ∀ row ∈ nb.loadBalancers, isOther lbId protocol row = false →
      ∀ other, Others lbId protocol nb other → other.uuid ≠ row.uuid := by
    intro row hm hr other ho he
    rw [Others, hd.wellFormed.eq_of_uuid ho.1 hm he, hr] at ho
    cases ho.2
  have hlinks : ∀ l, SameLinks lbId protocol nb l l := fun l row _ => Iff.rfl
  refine ⟨hd.wellFormed, rfl, fun row hm hr => ⟨hne row hm hr, fun u hu other ho hu' => ?_,
    hK row hm hr⟩, fun row ho u hu => hd.checks row ho.1 u hu, fun _ _ _ _ => rfl,
    fun _ _ _ hm _ => hm, List.forall₂_same.mpr fun ls _ => ⟨rfl, rfl, hlinks _⟩,
    List.forall₂_same.mpr fun lr _ => ⟨rfl, rfl, hlinks _⟩⟩
  exact hne row hm hr other ho (hd.attached row hm other ho.1 u hu hu')

/-- Only rows of the pool's protocol of the pool's load balancer have a key of it. -/
theorem ownsPool {poolId : Str} (hp : IsUuid poolId) {protocol : Option Protocol}
    (hprotocol : protocol = none ∨ protocol = some (d.protocol poolId)) :
    OwnsPool (d.loadBalancer poolId) protocol nb poolId := by
  intro row ho up hk
  obtain ⟨id, b, hkey, hid, hn, hrp⟩ := hd.pools row ho.1 _ hk (startsWith_poolKey poolId up)
  obtain ⟨rfl, -⟩ := getPoolKey_inj hp hid hkey
  have hr := ho.2
  rw [not_other_of hn hprotocol (.inl hrp)] at hr
  cases hr

/-- The pools found in the keys of a row belong to its load balancer. -/
theorem ownsKey {row : LoadBalancer} (hm : row ∈ nb.loadBalancers) {k : Str}
    (hk : k ∈ row.externalIds.keys) : OwnsKey row.name none nb k := by
  intro hpool id hid
  obtain ⟨x, up, rfl, hx, hn, -⟩ := hd.pools row hm k hk hpool
  rw [hn]
  rw [idOfKey_poolKey hx] at hid
  cases up with
  | true =>
      cases hid
      simpa using hd.ownsPool hx (.inl rfl)
  | false =>
      -- the parsed id has the suffix, so its enabled key is the disabled key of the pool
      cases hid
      intro other ho up hk
      obtain ⟨y, b, hkey, hy, hyn, -⟩ :=
        hd.pools other ho.1 _ hk (startsWith_poolKey (x ++ ':' :: disabledResourceSuffix) up)
      have hlen := congrArg List.length hkey
      simp only [getPoolKey, List.append_assoc, List.append_cancel_left_eq] at hkey
      obtain ⟨rfl, -⟩ := List.append_inj hkey (hx.1.trans hy.1.symm)
      exact ho.name_ne hyn

/-- Only what belongs to the monitor's load balancer names the monitor. -/
theorem ownsMonitor {hmId : Str} (hm : IsUuid hmId) :
    OwnsMonitor (d.loadBalancer hmId) none nb hmId := by
  intro row ho
  have hne := ho.name_ne
  refine ⟨fun hc hmem hu hkey => hne (hd.monitored row ho.1 hc hmem hu hmId hkey), fun t ht => ?_⟩
  obtain ⟨l, rfl, hl⟩ := hd.monitors row ho.1 t ht
  rw [Bool.eq_false_iff, ne_eq, hm.contains_dumpsList_iff fun x hx => (hl x hx).1]
  exact fun hx => hne (hl hmId hx).2

end Directory.Describes

section
variable (env : Env) {d : Directory} {nb : Nb} {lbId : Str} {request : Request}

theorem handled_undisturbed (hd : d.Describes nb) (hr : request.Concerns d lbId) :
    Undisturbed lbId (request.protocol d) nb (handled env request nb) := by
  have hw := hd.wellFormed
  have hrun : ∀ {K : Str → Prop} {α : Type} {p : Nbctl α} {f : α → Option Status},
      (∀ row ∈ nb.loadBalancers, isOther lbId (request.protocol d) row = false →
        ∀ k ∈ row.externalIds.keys, K k) →
      Isolates lbId (request.protocol d) nb K p (fun _ => True) →
      Undisturbed lbId (request.protocol d) nb ((f <$> p).run Nb.apply nb).2 := by
    intro K α p f hK hp
    have hend : Isolates lbId (request.protocol d) nb K (p >>= fun a => pure (f a)) fun _ => True :=
      .bind hp fun _ _ => .pure trivial
    exact (hend nb (hd.isolated hK)).1.undisturbed
  have hall : ∀ {α : Type} {p : Nbctl α} {f : α → Option Status},
      Isolates lbId (request.protocol d) nb (fun _ => True) p (fun _ => True) →
      Undisturbed lbId (request.protocol d) nb ((f <$> p).run Nb.apply nb).2 :=
    fun h => hrun (fun _ _ _ _ _ => trivial) h
  cases request with
  | lbCreate info => exact hall (isolates_lbCreate env hw (fun _ _ => trivial) hr (.inl rfl))
  | lbUpdate info => exact hall (isolates_lbUpdate env (fun _ _ => trivial) hr)
  | lbDelete info =>
      refine hrun (fun row hm ho k hk => ?_) (isolates_lbDelete env hw
        (fun k hk hpool => absurd hpool (by simp [startsWith_pool_base hk])) (fun _ hk => hk) hr)
      have hn : row.name = lbId := by
        have := of_decide_eq_false ho
        simpa [Request.protocol] using this
      exact hn ▸ hd.ownsKey hm hk
  | listenerCreate info =>
      exact hall (isolates_listenerCreate env hw (fun _ => trivial) hr (.inr rfl))
  | listenerDelete info => exact hall (isolates_listenerDelete env hr (.inr rfl))
  | listenerUpdate info =>
      exact hall (isolates_listenerUpdate env (fun _ => trivial) hr (.inr rfl))
  | poolCreate info => exact hall (isolates_poolCreate env hw (fun _ => trivial) hr (.inr rfl))
  | poolDelete info => exact hall (isolates_poolDelete env (fun _ => trivial) hr (.inr rfl))
  | poolUpdate info => exact hall (isolates_poolUpdate env (fun _ => trivial) hr (.inr rfl))
  | memberCreate info =>
      cases hp : info.poolId with
      | none => exact hall (by rw [memberCreate, hp]; exact .throw _)
      | some poolId =>
          obtain ⟨hu, rfl⟩ := hr poolId hp
          exact hall (isolates_memberCreate env (fun _ _ => trivial) hp
            (hd.ownsPool hu (.inr (by rw [Request.protocol, hp]; rfl))))
  | memberDelete info =>
      cases hp : info.poolId with
      | none => exact hall (by rw [memberDelete, hp]; exact .throw _)
      | some poolId =>
          obtain ⟨hu, rfl⟩ := hr poolId hp
          exact hall (isolates_memberDelete env (fun _ _ => trivial) hp
            (hd.ownsPool hu (.inr (by rw [Request.protocol, hp]; rfl))))
  | memberUpdate info =>
      cases hp : info.poolId with
      | none => exact hall (by rw [memberUpdate, hp]; exact .throw _)
      | some poolId =>
          obtain ⟨hu, rfl⟩ := hr poolId hp
          exact hall (isolates_memberUpdate env (fun _ _ => trivial) hp
            (hd.ownsPool hu (.inr (by rw [Request.protocol, hp]; rfl))))
  | hmCreate info =>
      obtain ⟨⟨hu, rfl⟩, -⟩ := hr
      exact hall (isolates_hmCreate env (fun _ _ => trivial) (hd.ownsPool hu (.inl rfl)))
  | hmUpdate info =>
      obtain ⟨-, hu, rfl⟩ := hr
      exact hall (isolates_hmUpdate (hd.ownsMonitor hu))
  | hmDelete info =>
      obtain ⟨-, hu, rfl⟩ := hr
      exact hall (isolates_hmDelete env (fun _ _ => trivial) (hd.ownsMonitor hu))
  | lbCreateLrpAssoc | lbDeleteLrpAssoc | handleVipFip | handleMemberDvr | hmUpdateEvent =>
      exact hr.elim

end

section Example

theorem exampleId_inj {c d : Char} (h : exampleId c = exampleId d) : c = d :=
  (List.replicate_right_inj (by decide)).mp h

/-- A row with an empty pool, and the port of its VIP. -/
def examplePoolRow (uuid : Nat) (name pool : Char) : LoadBalancer :=
  { uuid, name := exampleId name, protocol := some .tcp, vips := ∅
    externalIds := (Dict.single (getPoolKey (exampleId pool) true) []).set lbExtIdsVipPortIdKey
      "port".toList
    options := ∅
    selectionFields := [], healthCheck := [], ipPortMappings := ∅ }

/-- Two load balancers with a pool each, on one switch. -/
def exampleTenants : Nb :=
  { exampleNb with
    loadBalancers := [examplePoolRow 2 'a' 'c', examplePoolRow 3 'b' 'd']
    switches := exampleNb.switches.map fun ls => { ls with loadBalancer := [2, 3] }
    nextUuid := 4 }

def exampleDirectory : Directory where
  loadBalancer := fun id => if id = exampleId 'c' then exampleId 'a' else exampleId 'b'
  protocol := fun _ => .tcp

theorem describes_exampleTenants : exampleDirectory.Describes exampleTenants := by
  have hc : exampleDirectory.loadBalancer (exampleId 'c') = exampleId 'a' := by
    simp [exampleDirectory]
  have hne : exampleId 'd' ≠ exampleId 'c' := fun h => absurd (exampleId_inj h) (by decide)
  have hd : exampleDirectory.loadBalancer (exampleId 'd') = exampleId 'b' := by
    simp [exampleDirectory, hne]
  have hrow : ∀ row ∈ exampleTenants.loadBalancers, ∃ u name pool,
      row = examplePoolRow u name pool ∧ u < 4 ∧ pool ∈ uuidChars ∧
        exampleDirectory.loadBalancer (exampleId pool) = exampleId name := by
    intro row hm
    rcases List.mem_cons.mp hm with rfl | hm
    · exact ⟨2, 'a', 'c', rfl, by decide, by decide, hc⟩
    · rw [List.mem_singleton.mp hm]
      exact ⟨3, 'b', 'd', rfl, by decide, by decide, hd⟩
  have hget : ∀ row ∈ exampleTenants.loadBalancers,
      row.externalIds.get? lbExtIdsHmsKey = none := by
    intro row hm
    obtain ⟨u, name, pool, rfl, -⟩ := hrow row hm
    refine (Dict.get?_set_of_ne _ _ (by decide)).trans
      (Dict.get?_set_of_ne Dict.empty [] fun h => ?_)
    exact poolKey_notMem_base (exampleId pool) true (h ▸ by decide)
  refine ⟨⟨by decide, fun row hm => ?_⟩, fun row hm u hu => ?_, fun row hm row' _ u hu => ?_,
    fun row hm k hk hs => ?_, fun row hm t ht => ?_, fun _ _ hc hm => by cases hm⟩
  · obtain ⟨u, name, pool, rfl, hu, -⟩ := hrow row hm
    exact hu
  · obtain ⟨v, name, pool, rfl, -⟩ := hrow row hm
    cases hu
  · obtain ⟨v, name, pool, rfl, -⟩ := hrow row hm
    cases hu
  · obtain ⟨u, name, pool, rfl, -, hp, hd⟩ := hrow row hm
    rcases (Dict.mem_keys_set _ _ k _).mp hk with rfl | hk
    · exact absurd hs (by decide)
    rcases (Dict.mem_keys_set Dict.empty _ k []).mp hk with rfl | hk
    · exact ⟨exampleId pool, true, rfl, isUuid_exampleId hp, hd.symm, rfl⟩
    · cases hk
  · rw [hget row hm] at ht
    cases ht

theorem concerns_exampleLb :
    Request.Concerns exampleDirectory (exampleId 'a')
      (.lbDelete { exampleLb with cascade := true }) := rfl

/-- The first load balancer is deleted; the second and its links are the same. -/
theorem handled_undisturbed_example :
    (handled exampleEnv (.lbDelete { exampleLb with cascade := true }) exampleTenants).lbsNamed
        (exampleId 'a') = [] ∧
      Undisturbed (exampleId 'a') none exampleTenants
        (handled exampleEnv (.lbDelete { exampleLb with cascade := true }) exampleTenants) :=
  ⟨by decide +kernel, handled_undisturbed exampleEnv describes_exampleTenants concerns_exampleLb⟩

end Example

end OvnOctavia
