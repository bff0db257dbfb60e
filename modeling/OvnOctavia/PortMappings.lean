import OvnOctavia.HealthChecks
import OvnOctavia.Readable

/-!
The mappings of monitored addresses to ports. What the port lookups for an address come
to depends on the switches and the services only, and it decides whether the address is
mapped, unmapped or left alone.
-/

namespace OvnOctavia

section Lookups
variable (env : Env)

/-- The key of an address among the mappings of a row. -/
def mappingKey (ip : Str) : Str := if env.ipVersion ip = some .v6 then bracket ip else ip

/-- The mapping of an address to a port, with the address its health checks are sent from. -/
def mappingText (ip port srcIp : Str) : Str :=
  addressPort port (if env.ipVersion ip = some .v6 then bracket srcIp else srcIp)

/-- What the port lookups for an address come to; a source address is what the
health checks are sent from. -/
inductive PortLookup where
  | missing
  | unsourced
  | found (portName srcIp : Str)
  deriving DecidableEq

def memberLsp (nb : Nb) (ip subnetId : Str) : Except Exc (Option LogicalSwitchPort) := do
  env.neutronClient
  match env.getSubnet subnetId with
  | .error .resourceNotFound => return none
  | .error e => throw e
  | .ok subnet =>
      match nb.switch? (.name (ovnName subnet.networkId)) with
      | none => return none
      | some ls => return ls.ports.find? fun port =>
          (env.removeMacsFromLspAddresses port.addresses).contains ip

def hmOvnPort (networkId subnetId : Str) : Except Exc (Option Port) := do
  env.neutronClient
  match ← env.findPort networkId (lbHmPortPrefix ++ subnetId) with
  | some port => return some port
  | none =>
      match env.createHmPort networkId subnetId with
      | .ok port => return some port
      | .error .httpException => return none
      | .error e => throw e

def lookUpPort (nb : Nb) (m : MemberData) : Except Exc PortLookup := do
  match ← memberLsp env nb m.ip m.subnet with
  | none => return .missing
  | some lsp =>
      let networkId ← networkOfLsp lsp
      match ← hmOvnPort env networkId m.subnet with
      | none => return .unsourced
      | some port =>
          match fixedIpOf m.subnet port with
          | some (c :: srcIp) => return .found lsp.name (c :: srcIp)
          | _ => return .unsourced

/-- The first member with the address is the one that is looked up. -/
def lookUpAddress (nb : Nb) (ds : List MemberData) (ip : Str) : Except Exc PortLookup :=
  match ds.find? (·.ip = ip) with
  | none => .ok .missing
  | some m => lookUpPort env nb m

theorem lookUpAddress_congr {nb nb' : Nb} (h : nb'.switches = nb.switches)
    (ds : List MemberData) (ip : Str) :
    lookUpAddress env nb' ds ip = lookUpAddress env nb ds ip := by
  have hswitch : ∀ ref, nb'.switch? ref = nb.switch? ref := by
    intro ref
    cases ref with
    | uuid u => simp only [Nb.switch?, h]
    | name s => simp only [Nb.switch?, h]
  simp only [lookUpAddress, lookUpPort, memberLsp, hswitch]

end Lookups

section Running
variable {env : Env} {nb : Nb} {lb row : LoadBalancer} {ds : List MemberData}
  {key value ip : Str}

theorem run_getMemberLsp (ip subnetId : Str) :
    (getMemberLsp env ip subnetId).run Nb.apply nb = (memberLsp env nb ip subnetId, nb) := by
  simp only [getMemberLsp, memberLsp, Prog.run_bind, Prog.run_ofExcept]
  cases env.neutronClient with
  | error e => rfl
  | ok _ =>
      rw [Except.ok_bind]
      cases env.getSubnet subnetId with
      | error e => cases e <;> rfl
      | ok subnet =>
          simp only [Prog.run_bind, Prog.run_get]
          cases nb.switch? (.name (ovnName subnet.networkId)) with
          | none => rfl
          | some ls => rfl

/-- A program that only deletes ports leaves the rest of the store. -/
theorem run_portDeletes {α : Type} {p : Nbctl α}
    (hp : p.Uses fun c => ∃ id, c = .portDelete id) (nb : Nb) :
    ∃ ids, (p.run Nb.apply nb).2 = { nb with deletedPorts := ids } := by
  refine hp.run_keeps (I := fun s => ∃ ids, s = { nb with deletedPorts := ids }) ?_
    ⟨nb.deletedPorts, rfl⟩
  rintro c s s' ⟨id, rfl⟩ ⟨ids, rfl⟩ h
  cases h
  exact ⟨ids ++ [id], rfl⟩

/-- The port for health checks is found or made, or it is not to be had. -/
theorem run_ensureHmOvnPort (env : Env) (nb : Nb) (networkId subnetId : Str) :
    ((ensureHmOvnPort env networkId subnetId).run Nb.apply nb =
        (hmOvnPort env networkId subnetId, nb)) ∨
      hmOvnPort env networkId subnetId = .ok none ∧ ∃ r ids,
        (ensureHmOvnPort env networkId subnetId).run Nb.apply nb =
          (r, { nb with deletedPorts := ids }) ∧ ∀ port, r ≠ .ok (some port) := by
  simp only [ensureHmOvnPort, hmOvnPort, Prog.run_bind, Prog.run_ofExcept]
  cases env.neutronClient with
  | error e => exact .inl rfl
  | ok _ =>
      simp only [Except.ok_bind]
      cases env.findPort networkId (lbHmPortPrefix ++ subnetId) with
      | error e => exact .inl rfl
      | ok found =>
          cases found with
          | some port => exact .inl rfl
          | none =>
              simp only [Except.ok_bind]
              cases env.createHmPort networkId subnetId with
              | ok port => exact .inl rfl
              | error e =>
                  cases e with
                  | httpException =>
                      obtain ⟨ids, hids⟩ := run_portDeletes (uses_cleanUpHmPort env
                        (C := fun c => ∃ id, c = .portDelete id) (fun id => ⟨id, rfl⟩) subnetId) nb
                      right
                      refine ⟨rfl, ?_⟩
                      simp only [Prog.run_bind]
                      rcases hr : (cleanUpHmPort env subnetId).run Nb.apply nb with ⟨e | a, s⟩
                      · rw [hr] at hids
                        exact ⟨.error e, ids, by rw [← hids], by rintro _ ⟨⟩⟩
                      · rw [hr] at hids
                        refine ⟨.ok none, ids, ?_, by rintro _ ⟨⟩⟩
                        rw [← hids]
                        rfl
                  | _ => exact .inl rfl

/-- One mapping is written or taken out. -/
theorem run_updateIpPortMappings_eq (hw : nb.WellFormed) (hrow : nb.lb? lb.uuid = some row)
    (hip : (env.ipVersion ip).isSome) (port srcIp : Str) (delete : Bool) :
    (updateIpPortMappings env lb ip port srcIp delete).run Nb.apply nb =
      (.ok (), nb.putLb { row with ipPortMappings :=
        if delete then row.ipPortMappings.erase (mappingKey env ip)
        else row.ipPortMappings.set (mappingKey env ip) (mappingText env ip port srcIp) }) := by
  obtain ⟨version, hv⟩ := Option.isSome_iff_exists.mp hip
  have hkey : (if version = .v6 then bracket ip else ip) = mappingKey env ip := by
    rw [mappingKey, hv]
    simp only [Option.some.injEq]
  have htext : addressPort port (if version = .v6 then bracket srcIp else srcIp) =
      mappingText env ip port srcIp := by
    rw [mappingText, hv]
    simp only [Option.some.injEq]
  simp only [updateIpPortMappings, Prog.run_bind, Prog.run_ofExcept, Env.version, hv]
  rw [Prog.run_execute, hkey, htext]
  cases delete with
  | true =>
      have := Nb.transact_row hw hrow [LbOp.removeIpPortMapping (mappingKey env ip)] rfl
      simp only [if_true, List.map_cons, List.map_nil] at this ⊢
      rw [this]
      rfl
  | false =>
      have := Nb.transact_row hw hrow [LbOp.setIpPortMapping (mappingKey env ip)
        (mappingText env ip port srcIp)] rfl
      simp only [Bool.false_eq_true, if_false, List.map_cons, List.map_nil] at this ⊢
      rw [this]
      rfl

theorem run_updateIpPortMappings (hw : nb.WellFormed) (hrow : nb.lb? lb.uuid = some row)
    (hip : (env.ipVersion ip).isSome) (port srcIp : Str) (delete : Bool) :
    ∃ v, (updateIpPortMappings env lb ip port srcIp delete).run Nb.apply nb =
      (.ok (), nb.putLb { row with ipPortMappings :=
        if delete then row.ipPortMappings.erase (mappingKey env ip)
        else row.ipPortMappings.set (mappingKey env ip) v }) :=
  ⟨_, run_updateIpPortMappings_eq hw hrow hip port srcIp delete⟩

/-- How the lookups for an address of a pool end, with what they do to its mapping. -/
inductive MemberMapped (env : Env) (nb : Nb) (row : LoadBalancer) (ds : List MemberData)
    (ip : Str) (delete : Bool) : Except Exc (Option Str) × Nb → Prop
  | missing (h : lookUpAddress env nb ds ip = .ok .missing) :
      MemberMapped env nb row ds ip delete (.ok (some ERROR), nb)
  | found {port srcIp v : Str} (h : lookUpAddress env nb ds ip = .ok (.found port srcIp)) :
      MemberMapped env nb row ds ip delete (.ok (some ONLINE), nb.putLb { row with
        ipPortMappings := if delete then row.ipPortMappings.erase (mappingKey env ip)
                          else row.ipPortMappings.set (mappingKey env ip) v })
  | unanswered {r : Except Exc (Option Str)} {ids : List Str} (hr : ∀ status, r ≠ .ok (some status))
      (hn : r = .ok none → lookUpAddress env nb ds ip = .ok .unsourced)
      (hm : lookUpAddress env nb ds ip ≠ .ok .missing)
      (hf : ∀ port srcIp, lookUpAddress env nb ds ip ≠ .ok (.found port srcIp)) :
      MemberMapped env nb row ds ip delete (r, { nb with deletedPorts := ids })

theorem memberMapped (hw : nb.WellFormed) (hrow : nb.lb? lb.uuid = some row)
    (hv : row.externalIds.get? key = some (poolValue ds)) (hds : ∀ d ∈ ds, d.WellFormed env)
    (ip : Str) (delete : Bool) : MemberMapped env nb row ds ip delete
      ((updateHmMember env lb key ip delete).run Nb.apply nb) := by
  have hfail : ∀ e, lookUpAddress env nb ds ip = .error e →
      MemberMapped env nb row ds ip delete (.error e, nb) := fun e he =>
    show MemberMapped env nb row ds ip delete (_, { nb with deletedPorts := nb.deletedPorts }) from
      .unanswered (by rintro _ ⟨⟩) (by rintro ⟨⟩) (by rw [he]; rintro ⟨⟩)
        (by rw [he]; rintro _ _ ⟨⟩)
  have hnone : ∀ r ids, lookUpAddress env nb ds ip = .ok .unsourced →
    (∀ status, r ≠ .ok (some status)) →
      MemberMapped env nb row ds ip delete (r, { nb with deletedPorts := ids }) :=
        fun r ids he hr =>
    .unanswered hr (fun _ => he) (by rw [he]; rintro ⟨⟩) (by rw [he]; rintro _ _ ⟨⟩)
  simp only [updateHmMember, Prog.run_bind, run_readLb, live_of_lb? hrow, hv, Prog.run_ofExcept,
    extractMemberInfo_poolValue hds]
  cases hm : ds.find? (·.ip = ip) with
  | none => exact .missing (by rw [lookUpAddress, hm])
  | some m =>
      have hip : (env.ipVersion ip).isSome := by
        have he : m.ip = ip := by simpa using List.find?_some hm
        exact he ▸ (hds m (List.mem_of_find?_eq_some hm)).address
      have hlook : lookUpAddress env nb ds ip = lookUpPort env nb m := by rw [lookUpAddress, hm]
      simp only [lookUpPort] at hlook
      simp only [Prog.run_bind, run_getMemberLsp]
      cases hlsp : memberLsp env nb m.ip m.subnet with
      | error e =>
          rw [hlsp] at hlook
          exact hfail e hlook
      | ok lsp =>
          rw [hlsp, Except.ok_bind] at hlook
          cases lsp with
          | none => exact .missing hlook
          | some lsp =>
              simp only [Prog.run_bind, Prog.run_ofExcept] at hlook ⊢
              cases hnet : networkOfLsp lsp with
              | error e =>
                  rw [hnet] at hlook
                  exact hfail e hlook
              | ok networkId =>
                  rw [hnet, Except.ok_bind] at hlook
                  rcases run_ensureHmOvnPort env nb networkId m.subnet with
                    hrun | ⟨hport, r, ids, hrun, hr⟩
                  · simp only [hrun]
                    cases hport : hmOvnPort env networkId m.subnet with
                    | error e =>
                        rw [hport] at hlook
                        exact hfail e hlook
                    | ok port =>
                        rw [hport, Except.ok_bind] at hlook
                        cases port with
                        | none => exact hnone _ nb.deletedPorts hlook (by rintro _ ⟨⟩)
                        | some port =>
                            dsimp only at hlook ⊢
                            rcases hsrc : fixedIpOf m.subnet port with _ | _ | ⟨c, srcIp⟩
                            · rw [hsrc] at hlook
                              exact hnone _ nb.deletedPorts hlook (by rintro _ ⟨⟩)
                            · rw [hsrc] at hlook
                              exact hnone _ nb.deletedPorts hlook (by rintro _ ⟨⟩)
                            · rw [hsrc] at hlook
                              obtain ⟨v, hmap⟩ := run_updateIpPortMappings hw hrow hip lsp.name
                                (c :: srcIp) delete
                              simp only [Prog.run_bind, hmap]
                              exact .found hlook
                  · rw [hport] at hlook
                    simp only [hrun]
                    rcases r with e | _ | port
                    · exact hnone _ ids hlook (by rintro _ ⟨⟩)
                    · exact hnone _ ids hlook (by rintro _ ⟨⟩)
                    · exact absurd rfl (hr port)

end Running

section Cleaning
variable {env : Env} {nb : Nb} {lb row : LoadBalancer} {ds : List MemberData} {key : Str}

/-- The row has the member in the value of the key. -/
def LoadBalancer.ListsUnder (row : LoadBalancer) (key : Str) (d : MemberData) : Prop :=
  ∃ value ds, row.externalIds.get? key = some value ∧ extractMemberInfo value = .ok ds ∧ d ∈ ds

/-- A member of another pool has the address, and its status is that of a monitored one. -/
def LoadBalancer.Protects (row : LoadBalancer) (key ip : Str) : Prop :=
  ∃ k o, hasPoolPrefix k = true ∧ k ≠ key ∧ row.ListsUnder k o ∧ o.ip = ip ∧
    (statusesIn row.externalIds).get? o.id ≠ some NO_MONITOR

/-- The members of the other pools can be read. -/
theorem Readable.others (hr : Readable env row.externalIds) (key : Str) :
    ∃ others, (row.externalIds.items.filter fun b => hasPoolPrefix b.1 && b.1 ≠ key).mapM
        (fun b => extractMemberInfo b.2) = .ok others ∧
      ∀ o, o ∈ others.flatten ↔
        ∃ k, hasPoolPrefix k = true ∧ k ≠ key ∧ row.ListsUnder k o := by
  have hread : ∀ b ∈ row.externalIds.items.filter fun b => hasPoolPrefix b.1 && b.1 ≠ key,
      ∃ ds, extractMemberInfo b.2 = .ok ds := by
    intro b hb
    obtain ⟨hm, hp⟩ := List.mem_filter.mp hb
    rw [Bool.and_eq_true] at hp
    obtain ⟨ds, hv, hds⟩ := hr.isPoolValue hm hp.1
    exact ⟨ds, hv ▸ extractMemberInfo_poolValue hds⟩
  obtain ⟨others, ho⟩ := Except.mapM_ok_iff.mpr hread
  refine ⟨others, ho, fun o => ?_⟩
  rw [List.mem_flatten]
  constructor
  · rintro ⟨l, hl, hm⟩
    obtain ⟨⟨k, v⟩, hb, hx⟩ := Except.exists_of_mem_mapM ho hl
    obtain ⟨hb, hp⟩ := List.mem_filter.mp hb
    rw [Bool.and_eq_true, decide_eq_true_eq] at hp
    exact ⟨k, hp.1, hp.2, v, l, (Dict.get?_eq_some_iff _ _ _).mpr hb, hx, hm⟩
  · rintro ⟨k, hp, hne, v, l, hg, hx, hm⟩
    have hb : (k, v) ∈ row.externalIds.items.filter fun b => hasPoolPrefix b.1 && b.1 ≠ key := by
      rw [List.mem_filter, Bool.and_eq_true, decide_eq_true_eq]
      exact ⟨(Dict.get?_eq_some_iff _ _ _).mp hg, hp, hne⟩
    exact ⟨l, Except.mem_mapM_of_mem ho hb hx, hm⟩

/-- The mappings of the members go, but for the addresses that are kept. -/
theorem run_each_unmap (hw : nb.WellFormed) (hu : row.uuid = lb.uuid)
    (hrow : nb.lb? lb.uuid = some row) (hds : ∀ d ∈ ds, d.WellFormed env)
    (kept : MemberData → Bool) :
    ∃ maps, (Prog.each (fun m => if kept m then pure ()
        else updateIpPortMappings env lb m.ip [] [] true) ds).run Nb.apply nb =
          (.ok (), nb.putLb { row with ipPortMappings := maps }) ∧
      ∀ k ∈ row.ipPortMappings.keys, (∀ m ∈ ds, kept m = false → mappingKey env m.ip ≠ k) →
        k ∈ maps.keys := by
  induction ds generalizing nb row with
  | nil =>
      refine ⟨row.ipPortMappings, ?_, fun k hk _ => hk⟩
      have hself : nb.putLb row = nb := Nb.putLb_self hw (hu ▸ hrow)
      exact congrArg (Prod.mk _) hself.symm
  | cons m ds ih =>
      have hrest := fun d hd => hds d (List.mem_cons_of_mem _ hd)
      -- the first member leaves the row with these mappings
      have hfirst : ∃ maps, ((fun m => if kept m then pure ()
          else updateIpPortMappings env lb m.ip [] [] true : MemberData → Nbctl Unit) m).run
            Nb.apply nb = (.ok (), nb.putLb { row with ipPortMappings := maps }) ∧
          ∀ k ∈ row.ipPortMappings.keys, (kept m = false → mappingKey env m.ip ≠ k) →
            k ∈ maps.keys := by
        cases hkm : kept m with
        | true =>
            have hself : nb.putLb row = nb := Nb.putLb_self hw (hu ▸ hrow)
            refine ⟨row.ipPortMappings, ?_, fun k hk _ => hk⟩
            simp only [hkm, if_true]
            exact congrArg (Prod.mk _) hself.symm
        | false =>
            obtain ⟨v, hrun⟩ := run_updateIpPortMappings hw hrow
              (hds m (List.mem_cons_self ..)).address [] [] true
            refine ⟨row.ipPortMappings.erase (mappingKey env m.ip), ?_, fun k hk hfree => ?_⟩
            · simp only [hkm, Bool.false_eq_true, if_false]
              exact hrun
            · rw [Dict.mem_keys_erase]
              exact ⟨hk, fun he => hfree rfl he.symm⟩
      obtain ⟨maps, hrun, hkeys⟩ := hfirst
      have hput : (nb.putLb { row with ipPortMappings := maps }).lb? lb.uuid =
          some { row with ipPortMappings := maps } :=
        hu ▸ Nb.lb?_putLb { row with ipPortMappings := maps } (hu ▸ hrow)
      obtain ⟨maps', hrun', hkeys'⟩ := ih (hw.putLb _)
        (show { row with ipPortMappings := maps }.uuid = lb.uuid from hu) hput
          fun d hd => hds d (List.mem_cons_of_mem _ hd)
      refine ⟨maps', ?_, fun k hk hfree => ?_⟩
      · rw [Prog.run_each_ok Nb.apply (f := fun m => if kept m then pure ()
          else updateIpPortMappings env lb m.ip [] [] true) hrun, hrun']
        exact congrArg (Prod.mk _) (Nb.putLb_putLb rfl)
      · exact hkeys' k (hkeys k hk (hfree m (List.mem_cons_self ..)))
          fun m' hm' => hfree m' (List.mem_cons_of_mem _ hm')

theorem run_cleanIpPortMappings (lb row : LoadBalancer) (hw : nb.WellFormed)
    (hu : row.uuid = lb.uuid)
    (hrow : nb.lb? lb.uuid = some row) (hr : Readable env row.externalIds)
    (hv : row.externalIds.get? key = some (poolValue ds)) (hds : ∀ d ∈ ds, d.WellFormed env) :
    ∃ maps, (cleanIpPortMappings env lb key).run Nb.apply nb =
        (.ok (), nb.putLb { row with ipPortMappings := maps }) ∧
      ∀ k ∈ row.ipPortMappings.keys,
        (∀ m ∈ ds, ¬row.Protects key m.ip → mappingKey env m.ip ≠ k) → k ∈ maps.keys := by
  obtain ⟨others, ho, hmem⟩ := hr.others key
  obtain ⟨maps, hrun, hkeys⟩ := run_each_unmap hw hu hrow hds fun m => others.flatten.any fun o =>
    o.ip = m.ip && (statusesIn row.externalIds).get? o.id ≠ some NO_MONITOR
  refine ⟨maps, ?_, fun k hk hfree => hkeys k hk fun m hm hkept => hfree m hm ?_⟩
  · simp only [cleanIpPortMappings, Prog.run_bind, run_readLb, live_of_lb? hrow, hv,
      Prog.run_ofExcept, extractMemberInfo_poolValue hds, ho, hr.statuses]
    exact hrun
  · rintro ⟨k', o, hp, hne, hl, hip, hs⟩
    have := List.any_eq_false.mp hkept o ((hmem o).mpr ⟨k', hp, hne, hl⟩)
    simp [hip, hs] at this

end Cleaning

end OvnOctavia
