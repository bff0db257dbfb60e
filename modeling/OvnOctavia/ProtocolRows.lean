import Mathlib.Logic.Relation
import OvnOctavia.Table

/-!
Runs of listener and pool requests on one load balancer. After every request the
load balancer has rows, their protocols are pairwise distinct, and looking up the
row of a protocol finds the row that holds the objects of the protocol.
-/

namespace OvnOctavia

/-- One request of a run on listeners and pools, with ids not used before. -/
inductive ObjectStep : History × Nb → History × Nb → Prop
  | request {h : History} {nb : Nb} (env : Env) {r : Request} (hr : Table.IsObjectRequest h r)
      (hf : h.IsFresh r) : ObjectStep (h, nb) (h.next r, handled env r nb)

/-- What a client of the rows can rely on. -/
structure RowsByProtocol (h : History) (nb : Nb) : Prop where
  rows_ne_nil : nb.lbsNamed h.lbId ≠ []
  distinct : ∀ row ∈ nb.lbsNamed h.lbId, ∀ row' ∈ nb.lbsNamed h.lbId,
    row.protocol = row'.protocol → row = row'
  sole : ∀ row ∈ nb.lbsNamed h.lbId, row.protocol = none → nb.lbsNamed h.lbId = [row]
  listener : ∀ l ∈ h.listeners, ∀ row ∈ nb.lbsNamed h.lbId, ∀ up,
    getListenerKey l.id up ∈ row.externalIds.keys → row.protocol = some l.protocol
  pool : ∀ r ∈ h.pools, ∀ row ∈ nb.lbsNamed h.lbId, ∀ up,
    getPoolKey r.id up ∈ row.externalIds.keys → row.protocol = some r.protocol
  find_ne_indexError : ∀ p, ((findOvnLb h.lbId p).run Nb.apply nb).1 ≠ .error .indexError
  find_eq : ∀ row ∈ nb.lbsNamed h.lbId, ∀ p, row.protocol = some p →
    (findOvnLb h.lbId p).run Nb.apply nb = (.ok row, nb)

namespace RowsByProtocol
variable {h : History} {nb : Nb}

theorem findProtocol_eq {p : Protocol} {row : LoadBalancer} {rows : List LoadBalancer}
    (hnone : ∀ lb ∈ rows, lb.protocol ≠ none) (hrow : row ∈ rows) (hp : row.protocol = some p)
    (hd : ∀ lb ∈ rows, lb.protocol = some p → lb = row) : findProtocol p rows = .ok row := by
  induction rows with
  | nil => cases hrow
  | cons lb rows ih =>
      rw [findProtocol]
      cases hlb : lb.protocol with
      | none => exact absurd hlb (hnone lb (List.mem_cons_self ..))
      | some q =>
          by_cases hq : q = p
          · rw [hd lb (List.mem_cons_self ..) (hq ▸ hlb)]
            simp [hq]
          · simp only [hq, if_false]
            have hrow' : row ∈ rows := by
              rcases List.mem_cons.mp hrow with rfl | hrow
              · rw [hp] at hlb
                exact absurd (Option.some.inj hlb).symm hq
              · exact hrow
            exact ih (fun lb hm => hnone lb (List.mem_cons_of_mem _ hm)) hrow'
              fun lb hm => hd lb (List.mem_cons_of_mem _ hm)

theorem findProtocol_ne_indexError {p : Protocol} {rows : List LoadBalancer}
    (hnone : ∀ lb ∈ rows, lb.protocol ≠ none) : findProtocol p rows ≠ .error .indexError := by
  induction rows with
  | nil => rintro ⟨⟩
  | cons lb rows ih =>
      rw [findProtocol]
      cases hlb : lb.protocol with
      | none => exact absurd hlb (hnone lb (List.mem_cons_self ..))
      | some q =>
          dsimp only
          split
          · rintro ⟨⟩
          · exact ih fun lb hm => hnone lb (List.mem_cons_of_mem _ hm)

theorem of_table (ht : Table h nb) (hd : h.Distinct) : RowsByProtocol h nb where
  rows_ne_nil := ht.rows_ne_nil
  distinct := fun row hrow row' hrow' he =>
    List.inj_on_of_nodup_map ht.protocols hrow hrow' he
  sole := ht.sole
  listener := by
    intro l hl row hrow up hk
    obtain ⟨p, hhas, hp⟩ := ht.listener row hrow l.id up (hd.listener_uuid l hl) hk
    rw [hp, hd.protocol_of_listener hhas ⟨l, hl, rfl, rfl⟩]
  pool := by
    intro r hr row hrow up hk
    obtain ⟨p, hhas, hp⟩ := ht.pool row hrow r.id up (hd.pool_uuid r hr) hk
    rw [hp, hd.protocol_of_pool hhas ⟨r, hr, rfl, rfl⟩]
  find_ne_indexError := by
    intro p
    rw [run_findOvnLb]
    by_cases hnone : ∀ lb ∈ nb.lbsNamed h.lbId, lb.protocol ≠ none
    · unfold selectOvnLb
      split
      · next lb hone =>
          rw [if_neg (hnone lb (hone ▸ List.mem_singleton_self lb))]
          rw [hone] at hnone
          exact findProtocol_ne_indexError hnone
      · exact findProtocol_ne_indexError hnone
    · push Not at hnone
      obtain ⟨lb, hm, hn⟩ := hnone
      rw [ht.sole lb hm hn, selectOvnLb, if_pos hn]
      rintro ⟨⟩
  find_eq := by
    intro row hrow p hp
    have hnone : ∀ lb ∈ nb.lbsNamed h.lbId, lb.protocol ≠ none := by
      intro lb hm hn
      rw [ht.sole lb hm hn] at hrow
      rw [List.mem_singleton.mp hrow, hn] at hp
      cases hp
    have hfind : findProtocol p (nb.lbsNamed h.lbId) = .ok row :=
      findProtocol_eq hnone hrow hp fun lb hm hlb =>
        List.inj_on_of_nodup_map ht.protocols hm hrow (hlb.trans hp.symm)
    rw [run_findOvnLb]
    unfold selectOvnLb
    split
    · next lb hone =>
        rw [if_neg (hnone lb (hone ▸ List.mem_singleton_self lb)), ← hone, hfind]
    · rw [hfind]

end RowsByProtocol

section Start
variable {env : Env} {info : LoadBalancerInfo} {nb nb' : Nb} {operatingStatus : Str}

/-- A load balancer created without failure has its row. -/
theorem lbCreate_active {protocol : Option Protocol}
    (h : (lbCreate env info protocol).run Nb.apply nb =
      (.ok (lbStatusOf info.id ACTIVE operatingStatus), nb')) :
    ∃ vip vipPortId up fields, info.vipAddress = some vip ∧ info.adminStateUp = some up ∧
      vipPortIdOf info (vipPorts env info).1.1 = .ok vipPortId ∧
      (nb.createLb info.id protocol (addVipKeys info (baseExternalIds vip vipPortId up))
        fields).SameObjects nb' := by
  have hout := lbCreate_outcome env info protocol nb
  rw [h] at hout
  rcases hout with ⟨-, hfail⟩ | hrow
  · exact absurd rfl (hfail operatingStatus)
  · exact hrow

theorem lbsNamed_createLb_of_nil (hnone : nb.lbsNamed info.id = []) (externalIds : Dict Str Str)
    (fields : List Str) : ∃ row : LoadBalancer, row.externalIds = externalIds ∧ row.vips = ∅ ∧
      row.protocol = none ∧
        (nb.createLb info.id none externalIds fields).lbsNamed info.id = [row] := by
  refine ⟨⟨nb.nextUuid, info.id, none, ∅, externalIds, ∅, fields, [], ∅⟩, rfl, rfl, rfl, ?_⟩
  have hnil : nb.loadBalancers.filter (·.name = info.id) = [] := hnone
  simp [Nb.lbsNamed, Nb.createLb, List.filter_append, hnil]

/-- The table of a load balancer that was just created. -/
theorem Table.start (hw : nb.WellFormed) (hnone : nb.lbsNamed info.id = [])
    (h : (lbCreate env info none).run Nb.apply nb =
      (.ok (lbStatusOf info.id ACTIVE operatingStatus), nb')) (taken : List Str) :
    Table (History.new info.id taken) nb' := by
  obtain ⟨vip, vipPortId, up, fields, -, -, -, hs⟩ := lbCreate_active h
  obtain ⟨row, hre, -, hrp, hrows⟩ := lbsNamed_createLb_of_nil hnone
    (addVipKeys info (baseExternalIds vip vipPortId up)) fields
  have hholds : Table.Holds (History.new info.id taken) row :=
    Table.holds_of_base (hre ▸ Table.addVipKeys_base _ (Table.baseExternalIds_base _ _ _))
  have hcreated : Table (History.new info.id taken) (nb.createLb info.id none
      (addVipKeys info (baseExternalIds vip vipPortId up)) fields) := by
    refine ⟨hw.createLb .., ?_, ?_, ?_, ?_, ?_⟩ <;> simp only [History.new, hrows]
    · exact List.cons_ne_nil row []
    · exact List.nodup_singleton _
    · intro lb hm _
      rw [List.mem_singleton.mp hm]
    · intro lb hm
      rw [List.mem_singleton.mp hm]
      exact hholds.listener
    · intro lb hm
      rw [List.mem_singleton.mp hm]
      exact hholds.pool
  exact hcreated.same hs

end Start

section Runs
variable {env : Env} {info : LoadBalancerInfo} {nb₀ nb₁ nb : Nb} {h : History}
  {operatingStatus : Str} {taken : List Str}

theorem ObjectStep.keeps {s s' : History × Nb} (hs : ObjectStep s s')
    (h : Table s.1 s.2 ∧ s.1.Distinct) : Table s'.1 s'.2 ∧ s'.1.Distinct := by
  cases hs with
  | request env hr hf => exact ⟨h.1.step hr, h.2.next hf⟩

theorem ObjectStep.keeps_run {s s' : History × Nb} (hrun : Relation.ReflTransGen ObjectStep s s')
    (h : Table s.1 s.2 ∧ s.1.Distinct) : Table s'.1 s'.2 ∧ s'.1.Distinct := by
  induction hrun with
  | refl => exact h
  | tail _ hs ih => exact hs.keeps ih

/-- After every request of a run that starts with the creation of the load
balancer, its rows are told apart by their protocols. -/
theorem rowsByProtocol_of_run (hw : nb₀.WellFormed) (hnone : nb₀.lbsNamed info.id = [])
    (hcreate : (lbCreate env info none).run Nb.apply nb₀ =
      (.ok (lbStatusOf info.id ACTIVE operatingStatus), nb₁))
    (hrun : Relation.ReflTransGen ObjectStep (History.new info.id taken, nb₁) (h, nb)) :
    RowsByProtocol h nb := by
  have hkeep := ObjectStep.keeps_run hrun
    ⟨.start hw hnone hcreate taken, History.distinct_new info.id taken⟩
  exact .of_table hkeep.1 hkeep.2

end Runs

section Example

def exampleId (c : Char) : Str := List.replicate 36 c

theorem isUuid_exampleId {c : Char} (hc : c ∈ uuidChars) : IsUuid (exampleId c) :=
  ⟨List.length_replicate, fun _ hm => List.eq_of_mem_replicate hm ▸ hc⟩

/-- A Neutron with one network, whose subnet has the VIP's port, and an Octavia
that knows every bare id. -/
def exampleEnv : Env where
  neutronClient := .ok ()
  getPort := fun _ => .error .resourceNotFound
  listPorts := fun _ => .ok [⟨"port".toList, "net".toList, [⟨"sub".toList, "10.0.0.2".toList⟩]⟩]
  listPortsByName := fun _ => .ok []
  findPort := fun _ _ => .ok none
  createHmPort := fun _ _ => .error .httpException
  getSubnet := fun _ => .ok ⟨"net".toList, none, "10.0.0.0/24".toList⟩
  getNetwork := fun _ => .ok (some ⟨none⟩)
  deletePort := fun _ => .ok ()
  updateIp := fun _ => .ok ()
  getPool := fun id => if ':' ∈ id then none else some ⟨true, exampleId 'a'⟩
  getListener := fun id => if ':' ∈ id then none else some ⟨true⟩
  getLoadbalancer := fun _ => some ⟨true, some "port".toList, some "sub".toList, []⟩
  ipVersion := fun ip => if '.' ∈ ip then some .v4 else if ':' ∈ ip then some .v6 else none
  sameIp := fun _ _ => .ok false
  checkIpInSubnet := fun _ _ => .ok true
  removeMacsFromLspAddresses := id
  areSelectionFieldsSupported := true
  isHealthCheckSupported := true

/-- A database with the switch of the network. -/
def exampleNb : Nb :=
  { loadBalancers := [], healthChecks := [], switches := [⟨1, "neutron-net".toList, [], []⟩]
    routers := [], nats := [], nextUuid := 2, deletedPorts := [] }

def exampleLb : LoadBalancerInfo :=
  { id := exampleId 'a', vipAddress := some "10.0.0.2".toList
    vipNetworkId := some "net".toList, adminStateUp := some true }

/-- The database with the row of the load balancer. -/
def exampleCreated : Nb := ((lbCreate exampleEnv exampleLb none).run Nb.apply exampleNb).2

def exampleListener : ListenerInfo :=
  { id := exampleId 'b', loadbalancerId := exampleId 'a', protocol := .tcp, protocolPort := 80
    defaultPoolId := some none, adminStateUp := some true }

theorem wellFormed_exampleNb : exampleNb.WellFormed := ⟨List.nodup_nil, nofun⟩

theorem run_exampleLb : (lbCreate exampleEnv exampleLb none).run Nb.apply exampleNb =
    (.ok (lbStatusOf exampleLb.id ACTIVE ONLINE), exampleCreated) := by
  rfl

/-- The same Neutron, which also finds the VIP's port by its id. -/
def examplePortEnv : Env :=
  { exampleEnv with
    getPort := fun _ =>
      .ok ⟨"port".toList, "net".toList, [⟨"sub".toList, "10.0.0.2".toList⟩]⟩ }

/-- A listener of another protocol. -/
def exampleUdpListener : ListenerInfo :=
  { exampleListener with id := exampleId 'f', protocol := .udp, protocolPort := 53 }

/-- The second listener brings a second row. -/
theorem rowsByProtocol_of_run_example :
    let nb := handled examplePortEnv (.listenerCreate exampleUdpListener)
      (handled exampleEnv (.listenerCreate exampleListener) exampleCreated)
    (nb.lbsNamed (exampleId 'a')).map (·.protocol) = [some .tcp, some .udp] ∧
      RowsByProtocol (((History.new (exampleId 'a') []).next (.listenerCreate exampleListener)).next
        (.listenerCreate exampleUdpListener)) nb := by
  intro nb
  refine ⟨by decide +kernel, rowsByProtocol_of_run wellFormed_exampleNb rfl run_exampleLb
    ((Relation.ReflTransGen.single (.request exampleEnv ⟨rfl, isUuid_exampleId (by decide)⟩
      ⟨isUuid_exampleId (by decide), List.not_mem_nil⟩)).tail
      (.request examplePortEnv ⟨rfl, isUuid_exampleId (by decide)⟩
        ⟨isUuid_exampleId (by decide), ?_⟩))⟩
  decide

end Example

end OvnOctavia
