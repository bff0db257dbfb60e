import OvnOctavia.MemberOutcomes
import OvnOctavia.PortMappings

/-!
What the requests on health monitors do to a row: its members are told to be monitored
or not, its health checks come and go, and the addresses of the members are mapped to
their ports or are taken out of the mappings.
-/

namespace OvnOctavia

section Statuses
variable {env : Env} {nb : Nb} {lb row : LoadBalancer} {e e' e'' : Dict Str Str}
  {ds ms : List MemberData} {key : Str}

/-- The same keys, but for the statuses of the members. -/
structure Restated (env : Env) (e e' : Dict Str Str) : Prop where
  readable : Readable env e'
  get? : ∀ k, k ≠ ovnMemberStatusKey → e'.get? k = e.get? k
  port : ∀ poolKey, getPoolListenerPort e' poolKey = getPoolListenerPort e poolKey

theorem Restated.refl (hr : Readable env e) : Restated env e e :=
  ⟨hr, fun _ _ => rfl, fun _ => rfl⟩

theorem Restated.trans (h : Restated env e e') (h' : Restated env e' e'') : Restated env e e'' :=
  ⟨h'.readable, fun k hk => (h'.get? k hk).trans (h.get? k hk),
    fun poolKey => (h'.port poolKey).trans (h.port poolKey)⟩

theorem restated_withStatuses (hr : Readable env e) (d : Dict Str Str) :
    Restated env e (withStatuses e d) := by
  refine ⟨hr.withStatuses d, fun _ hk => Readable.get?_withStatuses hk e d, fun poolKey => ?_⟩
  have hstatus : hasListenerPrefix ovnMemberStatusKey = false := by decide
  rw [getPoolListenerPort, getPoolListenerPort, withStatuses]
  split
  · rw [Dict.filterMap_items_erase]
    simp [hstatus]
  · rw [Dict.filterMap_items_set]
    simp [hstatus]

theorem Restated.pool (h : Restated env e e') (id : Str) (up : Bool) :
    e'.get? (getPoolKey id up) = e.get? (getPoolKey id up) :=
  h.get? _ (Readable.withStatuses_ne (poolKey_notMem_base id up))

/-- One status in a readable row. -/
theorem run_writeStatus (hw : nb.WellFormed) (hrow : nb.lb? lb.uuid = some row)
    (hr : Readable env row.externalIds) (member status : Str) :
    ∃ e', (updateExternalIdsMemberStatus (some lb) member (some status)).run Nb.apply nb =
        (.ok (), nb.putLb { row with externalIds := e' }) ∧ Restated env row.externalIds e' ∧
      ∀ id, (statusesIn e').get? id =
        if id = member then some status else (statusesIn row.externalIds).get? id := by
  refine ⟨_, run_updateExternalIdsMemberStatus hw hrow hr.statuses member (some status),
    restated_withStatuses hr _, fun id => ?_⟩
  rw [Readable.statusesIn_withStatuses, withStatus, Dict.get?_set]

/-- Every member gets the status, the others keep theirs. -/
theorem run_mapEach_writeStatus (hw : nb.WellFormed) (hu : row.uuid = lb.uuid)
    (hrow : nb.lb? lb.uuid = some row) (hr : Readable env row.externalIds)
    (hds : ∀ d ∈ ds, d.WellFormed env) (provisioning status : Str) :
    ∃ entries e', (Prog.mapEach (fun memInfo => do
        let id ← Prog.ofExcept (memberIdOf memInfo)
        updateExternalIdsMemberStatus (some lb) id (some status)
        return (⟨some id, some provisioning, some status⟩ : StatusEntry))
        (ds.map MemberData.text) : Nbctl (List StatusEntry)).run Nb.apply nb =
          (.ok entries, nb.putLb { row with externalIds := e' }) ∧
      Restated env row.externalIds e' ∧ ∀ id, (statusesIn e').get? id =
        if ∃ d ∈ ds, d.id = id then some status else (statusesIn row.externalIds).get? id := by
  induction ds generalizing nb row with
  | nil =>
      have hself : nb.putLb row = nb := Nb.putLb_self hw (hu ▸ hrow)
      refine ⟨[], row.externalIds, congrArg (Prod.mk _) hself.symm, .refl hr, fun id => ?_⟩
      simp
  | cons d ds ih =>
      obtain ⟨e₁, hrun₁, he₁, hs₁⟩ := run_writeStatus hw hrow hr d.id status
      have hput : (nb.putLb { row with externalIds := e₁ }).lb? lb.uuid =
          some { row with externalIds := e₁ } :=
        hu ▸ Nb.lb?_putLb { row with externalIds := e₁ } (hu ▸ hrow)
      obtain ⟨entries, e', hrun, he, hs⟩ := ih (hw.putLb _)
        (show { row with externalIds := e₁ }.uuid = lb.uuid from hu) hput he₁.readable
          fun x hx => hds x (List.mem_cons_of_mem _ hx)
      refine ⟨⟨some d.id, some provisioning, some status⟩ :: entries, e',
        Prog.run_mapEach_ok (t := nb.putLb { row with externalIds := e₁ }) _ ?_ ?_,
        he₁.trans he, fun id => ?_⟩
      · simp only [Prog.run_bind, Prog.run_ofExcept,
          (hds d (List.mem_cons_self ..)).memberIdOf_text, hrun₁, Prog.run_pure]
      · rw [hrun]
        exact congrArg (Prod.mk _) (Nb.putLb_putLb rfl)
      · rw [hs id, hs₁ id]
        by_cases hd : d.id = id
        · simp [hd]
        · have hd' : id ≠ d.id := fun h => hd h.symm
          simp [hd, hd']

theorem run_updateMemberStatuses (hw : nb.WellFormed) (hu : row.uuid = lb.uuid)
    (hrow : nb.lb? lb.uuid = some row) (hr : Readable env row.externalIds) {poolId : Str}
    (hv : row.externalIds.get? (getPoolKey poolId true) = some (poolValue ds))
    (hds : ∀ d ∈ ds, d.WellFormed env) (provisioning status : Str) :
    ∃ entries e', (updateMemberStatuses lb poolId provisioning status).run Nb.apply nb =
          (.ok entries, nb.putLb { row with externalIds := e' }) ∧
      Restated env row.externalIds e' ∧ ∀ id, (statusesIn e').get? id =
        if ∃ d ∈ ds, d.id = id then some status else (statusesIn row.externalIds).get? id := by
  simp only [updateMemberStatuses, Prog.run_bind, run_readLb, live_of_lb? hrow, hv]
  cases ds with
  | nil =>
      have hself : nb.putLb row = nb := Nb.putLb_self hw (hu ▸ hrow)
      refine ⟨[], row.externalIds, congrArg (Prod.mk _) hself.symm, .refl hr, fun id => ?_⟩
      simp
  | cons d ds =>
      obtain ⟨c, members, hc⟩ := List.exists_cons_of_ne_nil
        (fun h => List.cons_ne_nil d ds (poolValue_eq_nil_iff.mp h))
      simp only [hc]
      rw [← hc, splitOn_poolValue hds (List.cons_ne_nil d ds)]
      exact run_mapEach_writeStatus hw hu hrow hr hds provisioning status

end Statuses

section Members
variable {env : Env} {nb : Nb} {lb row : LoadBalancer} {ds ms : List MemberData} {m : MemberData}
  {e : Dict Str Str} {key : Str} {S : Str → Prop}

/-- The keys of the mappings that survive when the pool's are cleaned, whatever the statuses
of its own members have become. -/
def Survive (env : Env) (row : LoadBalancer) (key : Str) (ds : List MemberData)
    (S : Str → Prop) : Prop :=
  ∀ e, (∀ k, hasPoolPrefix k = true → e.get? k = row.externalIds.get? k) →
    (∀ id, (∀ m ∈ ds, m.id ≠ id) → (statusesIn e).get? id = (statusesIn row.externalIds).get? id) →
    ∀ k, S k → ∀ m ∈ ds, ¬{ row with externalIds := e }.Protects key m.ip → mappingKey env m.ip ≠ k

theorem Survive.rewritten (h : Survive env row key ds S) {row' : LoadBalancer}
    (he : ∀ k, hasPoolPrefix k = true → row'.externalIds.get? k = row.externalIds.get? k)
    (hs : ∀ id, (∀ m ∈ ds, m.id ≠ id) →
      (statusesIn row'.externalIds).get? id = (statusesIn row.externalIds).get? id) :
    Survive env row' key ds S :=
  fun e' he' hs' => h e' (fun k hk => (he' k hk).trans (he k hk))
    fun id hid => (hs' id hid).trans (hs id hid)

theorem Restated.poolPrefix {e e' : Dict Str Str} (h : Restated env e e') (k : Str)
    (hk : hasPoolPrefix k = true) : e'.get? k = e.get? k :=
  h.get? k fun he => absurd (he ▸ hk) (by decide)

theorem SameKeys.poolPrefix {e e' : Dict Str Str} (h : SameKeys e e') (k : Str)
    (hk : hasPoolPrefix k = true) : e'.get? k = e.get? k := by
  refine h.get? k fun hm => ?_
  have hnone : ∀ k ∈ peripheralKeys, hasPoolPrefix k = false := by decide
  rw [hnone k hm] at hk
  cases hk

/-- The lookups for the address find its port. -/
def PortFound (env : Env) (nb : Nb) (ds : List MemberData) (ip : Str) : Prop :=
  ∃ port srcIp, lookUpAddress env nb ds ip = .ok (.found port srcIp)

/-- The lookups for the members before this one end with or without a port. -/
def Reaches (env : Env) (nb : Nb) (ds ms : List MemberData) (m : MemberData) : Prop :=
  ∃ l l', ms = l ++ m :: l' ∧
    ∀ x ∈ l, lookUpAddress env nb ds x.ip = .ok .missing ∨ PortFound env nb ds x.ip

theorem reaches_head (x : MemberData) : Reaches env nb ds (x :: ms) x :=
  ⟨[], ms, rfl, nofun⟩

theorem Reaches.cons {x : MemberData} (h : Reaches env nb ds ms m)
    (hx : lookUpAddress env nb ds x.ip = .ok .missing ∨ PortFound env nb ds x.ip) :
    Reaches env nb ds (x :: ms) m := by
  obtain ⟨l, l', he, hl⟩ := h
  refine ⟨x :: l, l', by rw [he, List.cons_append], fun y hy => ?_⟩
  rcases List.mem_cons.mp hy with rfl | hy
  · exact hx
  · exact hl y hy

theorem Reaches.cases {x : MemberData} (h : Reaches env nb ds (x :: ms) m) :
    x = m ∨ (lookUpAddress env nb ds x.ip = .ok .missing ∨ PortFound env nb ds x.ip) ∧
      Reaches env nb ds ms m := by
  obtain ⟨l, l', he, hl⟩ := h
  cases l with
  | nil =>
      cases he
      exact .inl rfl
  | cons y l =>
      cases he
      exact .inr ⟨hl x (List.mem_cons_self ..), l, l', rfl,
        fun y hy => hl y (List.mem_cons_of_mem _ hy)⟩

/-- A pass over members of the pool maps those that are looked up and found, and cleans the
mappings of the pool only for want of a source address. -/
theorem run_monitorMembers (hw : nb.WellFormed) (hu : row.uuid = lb.uuid)
    (hrow : nb.lb? lb.uuid = some row) (hr : Readable env row.externalIds)
    (hkey : key ≠ ovnMemberStatusKey) (hv : row.externalIds.get? key = some (poolValue ds))
    (hds : ∀ d ∈ ds, d.WellFormed env) (hms : ∀ m ∈ ms, m ∈ ds)
    (hS : (∀ m, Reaches env nb ds ms m → lookUpAddress env nb ds m.ip ≠ .ok .unsourced) ∨
      Survive env row key ds S) :
    ∃ r e maps ids, (monitorMembers env lb key ms).run Nb.apply nb =
        (r, { nb.putLb { row with externalIds := e, ipPortMappings := maps } with
          deletedPorts := ids }) ∧
      Restated env row.externalIds e ∧
      (∀ id, (∀ m ∈ ds, m.id ≠ id) →
        (statusesIn e).get? id = (statusesIn row.externalIds).get? id) ∧
      (∀ k ∈ row.ipPortMappings.keys, S k → k ∈ maps.keys) ∧
      ∀ m, Reaches env nb ds ms m → PortFound env nb ds m.ip → S (mappingKey env m.ip) →
        mappingKey env m.ip ∈ maps.keys := by
  induction ms generalizing nb row with
  | nil =>
      have hself : nb.putLb row = nb := Nb.putLb_self hw (hu ▸ hrow)
      refine ⟨.ok true, row.externalIds, row.ipPortMappings, nb.deletedPorts,
        congrArg (Prod.mk _) hself.symm, .refl hr, fun _ _ => rfl, fun k hk _ => hk, ?_⟩
      rintro m ⟨l, l', he, -⟩
      cases l <;> cases he
  | cons x ms ih =>
      have hx : x ∈ ds := hms x (List.mem_cons_self ..)
      -- the status of the member is written into the row that its lookup leaves
      have hwritten : ∀ status maps₁, (updateHmMember env lb key x.ip false).run Nb.apply nb =
          (.ok (some status), nb.putLb { row with ipPortMappings := maps₁ }) →
          (lookUpAddress env nb ds x.ip = .ok .missing ∨ PortFound env nb ds x.ip) →
          (∀ k ∈ row.ipPortMappings.keys, k ∈ maps₁.keys) →
          (PortFound env nb ds x.ip → mappingKey env x.ip ∈ maps₁.keys) →
          ∃ r e maps ids, (monitorMembers env lb key (x :: ms)).run Nb.apply nb =
              (r, { nb.putLb { row with externalIds := e, ipPortMappings := maps } with
                deletedPorts := ids }) ∧
            Restated env row.externalIds e ∧
            (∀ id, (∀ m ∈ ds, m.id ≠ id) →
              (statusesIn e).get? id = (statusesIn row.externalIds).get? id) ∧
            (∀ k ∈ row.ipPortMappings.keys, S k → k ∈ maps.keys) ∧
            ∀ m, Reaches env nb ds (x :: ms) m → PortFound env nb ds m.ip →
              S (mappingKey env m.ip) → mappingKey env m.ip ∈ maps.keys := by
        intro status maps₁ hrun hans hgrow₁ hfound
        have hput : (nb.putLb { row with ipPortMappings := maps₁ }).lb? lb.uuid =
            some { row with ipPortMappings := maps₁ } :=
          hu ▸ Nb.lb?_putLb { row with ipPortMappings := maps₁ } (hu ▸ hrow)
        obtain ⟨e₁, hst, he₁, hs₁⟩ := run_writeStatus (hw.putLb _) hput hr x.id status
        rw [Nb.putLb_putLb (by rfl)] at hst
        have hput₁ : (nb.putLb { row with externalIds := e₁, ipPortMappings := maps₁ }).lb?
          lb.uuid =
            some { row with externalIds := e₁, ipPortMappings := maps₁ } :=
          hu ▸ Nb.lb?_putLb { row with externalIds := e₁, ipPortMappings := maps₁ } (hu ▸ hrow)
        have hout₁ : ∀ id, (∀ m ∈ ds, m.id ≠ id) →
            (statusesIn e₁).get? id = (statusesIn row.externalIds).get? id := fun id hid => by
          rw [hs₁, if_neg (fun h => hid x hx h.symm)]
        have hlook : ∀ ip, lookUpAddress env (nb.putLb { row with
            externalIds := e₁, ipPortMappings := maps₁ }) ds ip = lookUpAddress env nb ds ip :=
          lookUpAddress_congr env rfl ds
        obtain ⟨r, e, maps, ids, hrun', he, hs, hkept, hmapped⟩ :=
          ih (hw.putLb _) (show { row with
            externalIds := e₁, ipPortMappings := maps₁ }.uuid = lb.uuid from hu) hput₁ he₁.readable
            ((he₁.get? key hkey).trans hv)
            (fun y hy => hms y (List.mem_cons_of_mem _ hy))
            (hS.imp (fun h y hy => by
              simp only [Reaches, PortFound, hlook] at hy ⊢
              exact h y (Reaches.cons hy hans)) fun h => h.rewritten he₁.poolPrefix hout₁)
        refine ⟨r, e, maps, ids, ?_, he₁.trans he, fun id hid => (hs id hid).trans (hout₁ id hid),
          fun k hk => hkept k (hgrow₁ k hk), fun m hm hport hSm => ?_⟩
        · simp only [monitorMembers, Prog.run_bind, hrun, hst, hrun']
          rw [Nb.putLb_putLb (by rfl)]
        · rcases hm.cases with rfl | ⟨-, hm⟩
          · exact hkept _ (hfound hport) hSm
          · simp only [Reaches, PortFound, hlook] at hmapped
            exact hmapped m hm hport hSm
      have hself : nb.putLb row = nb := Nb.putLb_self hw (hu ▸ hrow)
      have hmapped := memberMapped hw hrow hv hds x.ip false
      generalize hrun : (updateHmMember env lb key x.ip false).run Nb.apply nb = r at hmapped
      cases hmapped with
      | missing h =>
          refine hwritten ERROR row.ipPortMappings (by rw [hrun]; rw [hself]) (.inl h)
            (fun k hk => hk) ?_
          rintro ⟨port, srcIp, hf⟩
          rw [h] at hf
          cases hf
      | @found port srcIp v h =>
          refine hwritten ONLINE (row.ipPortMappings.set (mappingKey env x.ip) v) hrun
            (.inr ⟨port, srcIp, h⟩) (fun k hk => ?_) fun _ => ?_
          · exact (Dict.mem_keys_set _ _ _ _).mpr (.inr hk)
          · exact (Dict.mem_keys_set _ _ _ _).mpr (.inl rfl)
      | @unanswered r ids hnone hn hnm hnf =>
          have hnot : ∀ m, Reaches env nb ds (x :: ms) m → ¬PortFound env nb ds m.ip := by
            intro m hm hport
            rcases hm.cases with rfl | ⟨h | ⟨port, srcIp, h⟩, -⟩
            · obtain ⟨port, srcIp, h⟩ := hport
              exact hnf port srcIp h
            · exact hnm h
            · exact hnf port srcIp h
          rcases r with exc | _ | status
          · refine ⟨.error exc, row.externalIds, row.ipPortMappings, ids, ?_, .refl hr,
              fun _ _ => rfl, fun k hk _ => hk, fun m hm hport => absurd hport (hnot m hm)⟩
            simp only [monitorMembers, Prog.run_bind, hrun]
            rw [show nb.putLb { row with externalIds := row.externalIds } = nb from hself]
          · have hs : Survive env row key ds S := by
              rcases hS with h | h
              · exact absurd (hn rfl) (h x (reaches_head x))
              · exact h
            obtain ⟨maps, hclean, hkept⟩ := run_cleanIpPortMappings lb row
              (show Nb.WellFormed { nb with deletedPorts := ids } from ⟨hw.nodup, hw.lt_next⟩) hu
                hrow hr hv hds
            refine ⟨.ok false, row.externalIds, maps, ids, ?_, .refl hr, fun _ _ => rfl,
              fun k hk hSk => hkept k hk (hs _ (fun _ _ => rfl) (fun _ _ => rfl) k hSk),
              fun m hm hport => absurd hport (hnot m hm)⟩
            simp only [monitorMembers, Prog.run_bind, hrun, hclean]
            rfl
          · exact absurd rfl (hnone status)

end Members

section Checks
variable {env : Env} {nb nb' nb'' : Nb} {lb row row' row'' : LoadBalancer} {poolId key : Str}

/-- The row has further health checks, all of one pool. -/
structure ChecksAdded (poolId : Str) (nb : Nb) (row : LoadBalancer) (nb' : Nb)
    (row' : LoadBalancer) : Prop where
  watched : Watched nb' row'
  uuid : row'.uuid = row.uuid
  keys : SameKeys row.externalIds row'.externalIds
  mappings : row'.ipPortMappings = row.ipPortMappings
  checks : ∀ hc ∈ nb'.checksOf row', hc ∈ nb.checksOf row ∨
    hc.externalIds.get? lbExtIdsHmPoolKey = some poolId
  table : (nb.healthChecks.map HealthCheck.uuid).Nodup →
    (nb'.healthChecks.map HealthCheck.uuid).Nodup
  switches : nb'.switches = nb.switches
  hms : (∃ l, loadHms row.externalIds = .ok l) → ∃ l, loadHms row'.externalIds = .ok l

theorem ChecksAdded.refl (h : Watched nb row) : ChecksAdded poolId nb row nb row :=
  ⟨h, rfl, .refl _, rfl, fun _ hc => .inl hc, id, rfl, id⟩

theorem ChecksAdded.trans (h : ChecksAdded poolId nb row nb' row')
    (h' : ChecksAdded poolId nb' row' nb'' row'') : ChecksAdded poolId nb row nb'' row'' where
  watched := h'.watched
  uuid := h'.uuid.trans h.uuid
  keys := h.keys.trans h'.keys
  mappings := h'.mappings.trans h.mappings
  checks := fun hc hm => (h'.checks hc hm).elim (h.checks hc) .inr
  table := h'.table ∘ h.table
  switches := h'.switches.trans h.switches
  hms := h'.hms ∘ h.hms

theorem loadHms_setHms (e : Dict Str Str) (hms : List Str) :
    loadHms (e.set lbExtIdsHmsKey (Json.dumpsList hms)) = .ok hms := by
  have hcons : ∃ c t, Json.dumpsList hms = c :: t := by
    cases hms with
    | nil => exact ⟨_, _, rfl⟩
    | cons x xs => exact ⟨_, _, rfl⟩
  obtain ⟨c, t, ht⟩ := hcons
  have hload := Json.loadsList_dumpsList hms
  rw [ht] at hload
  simp only [loadHms, Dict.get?_set_self, ht, hload]

theorem loadHms_of_get? {e : Dict Str Str} {hms : List Str}
    (h : e.get? lbExtIdsHmsKey = some (Json.dumpsList hms)) : loadHms e = .ok hms := by
  have hload := loadHms_setHms e hms
  rwa [Dict.set_of_get? h] at hload

/-- The commands of a new monitor. -/
def Command.AddsCheck (u : Nat) (poolId : Str) (c : Command) : Prop :=
  (∃ vip options externalIds, c = .hcCreate u vip options externalIds ∧
      externalIds.get? lbExtIdsHmPoolKey = some poolId) ∨
    ∃ hms, c = .lbUpdate u (.setExternalIds (.single lbExtIdsHmsKey (Json.dumpsList hms)))

theorem checksAdded_apply (h : Watched nb row) {c : Command} (hc : c.AddsCheck row.uuid poolId) :
    ∃ nb' row', Nb.apply c nb = .ok nb' ∧ ChecksAdded poolId nb row nb' row' := by
  rcases hc with ⟨vip, options, externalIds, rfl, hpool⟩ | ⟨hms, rfl⟩
  · obtain ⟨hwatched, hchecks⟩ := h.withCheck vip options externalIds
    refine ⟨_, _, h.apply_hcCreate vip options externalIds, hwatched, rfl, .refl _, rfl,
      fun hc hm => ?_, fun hn => ?_, rfl, id⟩
    · rw [hchecks, List.mem_append, List.mem_singleton] at hm
      refine hm.imp_right fun he => ?_
      rw [he]
      exact hpool
    · simp only [Nb.withCheck, List.map_append, List.map_cons, List.map_nil, List.nodup_append]
      refine ⟨hn, List.nodup_singleton _, fun a ha b hb => ?_⟩
      obtain ⟨hc, hm, rfl⟩ := List.mem_map.mp ha
      rw [List.mem_singleton.mp hb]
      exact Nat.ne_of_lt (h.lt_next hc hm)
  · have hput := h.putLb { row with
        externalIds := row.externalIds.set lbExtIdsHmsKey (Json.dumpsList hms) } rfl rfl
    refine ⟨_, _, ?_, hput.1, rfl, .set _ _ (by decide), rfl, fun hc hm => ?_, id, rfl,
      fun _ => ⟨hms, loadHms_setHms _ _⟩⟩
    · rw [Nb.apply_lbUpdate h.found, Nb.updateLb_eq_putLb h.wellFormed h.found (by rfl)]
      simp only [LbOp.apply, Dict.update_single]
    · rw [hput.2] at hm
      exact .inl hm

theorem checksAdded_transact (h : Watched nb row) {cs : List Command}
    (hcs : ∀ c ∈ cs, c.AddsCheck row.uuid poolId) :
    ∃ nb' row', Prog.transact Nb.apply cs nb = .ok nb' ∧ ChecksAdded poolId nb row nb' row' := by
  induction cs generalizing nb row with
  | nil => exact ⟨nb, row, rfl, .refl h⟩
  | cons c cs ih =>
      obtain ⟨nb₁, row₁, ha, hadd⟩ := checksAdded_apply h (hcs c (List.mem_cons_self ..))
      obtain ⟨nb', row', ht, hadd'⟩ := ih hadd.watched fun d hd =>
        hadd.uuid ▸ hcs d (List.mem_cons_of_mem _ hd)
      refine ⟨nb', row', ?_, hadd.trans hadd'⟩
      rw [Prog.transact_cons, ha]
      exact ht

theorem addsCheck_hcCreate (u : Nat) (vip hmId : Str) (options : Dict Str Str) (id x : Str) :
    (Command.hcCreate u vip options (lbhcExternalIds hmId (getPoolKey id true) x)).AddsCheck u
      id := by
  refine .inl ⟨_, _, _, rfl, ?_⟩
  have hdrop : (getPoolKey id true).drop lbExtIdsPoolPrefix.length = id := by
    simp [getPoolKey]
  rw [lbhcExternalIds, Dict.get?_set_of_ne _ _ (by decide), Dict.get?_set_self, hdrop]

/-- The commands of a new monitor can be told for readable addresses. -/
theorem addLbhcCommands_ok (hr : Readable env row.externalIds)
    (hfips : ∀ a ∈ lbhcFips row.externalIds, (env.ipVersion a).isSome)
    (hhms : ∃ l, loadHms row.externalIds = .ok l) (id : Str) (info : HmInfo) :
    ∃ cs, addLbhcCommands env row (getPoolKey id true) info = .ok cs ∧
      ∀ c ∈ cs, c.AddsCheck row.uuid id := by
  obtain ⟨hms, hhms⟩ := hhms
  have htext : ∀ a, (env.ipVersion a).isSome → ∀ port, ∃ text, lbhcVip env a port = .ok text := by
    intro a ha port
    obtain ⟨v, hv⟩ := Option.isSome_iff_exists.mp ha
    simp only [lbhcVip, bracketVip, Env.version, hv]
    exact ⟨_, rfl⟩
  generalize hport : getPoolListenerPort row.externalIds (getPoolKey id true) = port
  have hvips : ∃ cs, (lbVips row.externalIds).mapM (fun vip => do
      let text ← lbhcVip env vip port
      return [.hcCreate row.uuid text (hmOptions info)
        (lbhcExternalIds info.id (getPoolKey id true) vip),
        setHms row (hms ++ [info.id])] : Str → Except Exc (List Command)) = .ok cs := by
    refine Except.mapM_ok_iff.mpr fun a ha => ?_
    obtain ⟨text, ht⟩ := htext a (hr.vips a ha) port
    exact ⟨_, by rw [ht]; rfl⟩
  have hfips' : ∃ cs, (lbhcFips row.externalIds).mapM (fun fip => do
      let text ← lbhcVip env fip port
      return .hcCreate row.uuid text (hmOptions info) (lbhcExternalIds info.id (getPoolKey id true)
        ((lbhcFips row.externalIds).getLastD [])) : Str → Except Exc Command) = .ok cs := by
    refine Except.mapM_ok_iff.mpr fun a ha => ?_
    obtain ⟨text, ht⟩ := htext a (hfips a ha) port
    exact ⟨_, by rw [ht]; rfl⟩
  obtain ⟨vipCommands, hv⟩ := hvips
  obtain ⟨fipCommands, hf⟩ := hfips'
  refine ⟨vipCommands.flatten ++ fipCommands, ?_, fun c hc => ?_⟩
  · simp only [addLbhcCommands, hhms, hport, Except.ok_bind]
    rw [hv, Except.ok_bind, hf, Except.ok_bind]
    rfl
  · rcases List.mem_append.mp hc with hc | hc
    · obtain ⟨l, hl, hc⟩ := List.mem_flatten.mp hc
      obtain ⟨a, -, ha⟩ := Except.exists_of_mem_mapM hv hl
      obtain ⟨text, -, ha⟩ := Except.bind_eq_ok.mp ha
      cases ha
      simp only [List.mem_cons, List.not_mem_nil, or_false] at hc
      rcases hc with rfl | rfl
      · exact addsCheck_hcCreate _ _ _ _ _ _
      · exact .inr ⟨_, rfl⟩
    · obtain ⟨a, -, ha⟩ := Except.exists_of_mem_mapM hf hc
      obtain ⟨text, -, ha⟩ := Except.bind_eq_ok.mp ha
      cases ha
      exact addsCheck_hcCreate _ _ _ _ _ _

/-- The health checks of a new monitor are of its pool. -/
theorem run_addLbhc (h : Watched nb row) (hu : row.uuid = lb.uuid)
    (hr : Readable env row.externalIds) (hvip : lbVips row.externalIds ≠ [])
    (hfips : ∀ a ∈ lbhcFips row.externalIds, (env.ipVersion a).isSome)
    (hhms : ∃ l, loadHms row.externalIds = .ok l) (id : Str) (info : HmInfo) :
    ∃ nb' row', (addLbhc env lb (getPoolKey id true) info).run Nb.apply nb = (.ok true, nb') ∧
      ChecksAdded id nb row nb' row' := by
  obtain ⟨cs, hcs, hadd⟩ := addLbhcCommands_ok hr hfips hhms id info
  obtain ⟨nb', row', ht, hadded⟩ := checksAdded_transact h hadd
  refine ⟨nb', row', ?_, hadded⟩
  simp only [addLbhc, Prog.run_bind, run_readLb, live_of_lb? (hu ▸ h.found), if_neg hvip,
    Prog.run_attempt, Prog.run_ofExcept, hcs, Prog.run_transaction, ht, Prog.run_pure]
  rfl

end Checks

/-- A row whose monitors can be worked on: its keys and its health checks can be read. -/
structure Tended (env : Env) (nb : Nb) (row : LoadBalancer) : Prop where
  watched : Watched nb row
  table : (nb.healthChecks.map HealthCheck.uuid).Nodup
  readable : Readable env row.externalIds
  hms : ∃ l, loadHms row.externalIds = .ok l
  vip : lbVips row.externalIds ≠ []
  fips : ∀ a ∈ lbhcFips row.externalIds, (env.ipVersion a).isSome

section Creation
variable {env : Env} {nb nb' : Nb} {row row' : LoadBalancer} {e e' : Dict Str Str}
  {ds : List MemberData} {info : HmInfo} {key : Str}

theorem lbhcFips_congr (h : ∀ k ∈ [lbExtIdsVipFipKey, lbExtIdsAdditVipFipKey],
    e'.get? k = e.get? k) :
    lbhcFips e' = lbhcFips e := by
  rw [lbhcFips, lbhcFips, h _ (by simp), h _ (by simp)]

theorem lbVips_congr (h : ∀ k ∈ [lbExtIdsVipKey, lbExtIdsAdditVipKey], e'.get? k = e.get? k) :
    lbVips e' = lbVips e := by
  rw [lbVips, lbVips, h _ (by simp), h _ (by simp)]

theorem loadHms_congr (h : e'.get? lbExtIdsHmsKey = e.get? lbExtIdsHmsKey) :
    loadHms e' = loadHms e := by
  rw [loadHms, loadHms, h]

/-- The address keys of a row are not among its statuses. -/
theorem Restated.addresses (h : Restated env e e') :
    loadHms e' = loadHms e ∧ lbVips e' = lbVips e ∧ lbhcFips e' = lbhcFips e := by
  refine ⟨loadHms_congr (h.get? _ (by decide)), lbVips_congr fun k hk => h.get? k ?_,
    lbhcFips_congr fun k hk => h.get? k ?_⟩
  · revert k
    decide
  · revert k
    decide

/-- Other statuses and mappings leave a row tended. -/
theorem Tended.put (h : Tended env nb row) (he : Restated env row.externalIds e')
    (maps : Dict Str Str) :
    Tended env (nb.putLb { row with externalIds := e', ipPortMappings := maps })
        { row with externalIds := e', ipPortMappings := maps } ∧
      (nb.putLb { row with externalIds := e', ipPortMappings := maps }).checksOf
        { row with externalIds := e', ipPortMappings := maps } = nb.checksOf row := by
  obtain ⟨hw, hchecks⟩ := h.watched.putLb { row with
    externalIds := e', ipPortMappings := maps } rfl rfl
  obtain ⟨hhms, hvips, hfips⟩ := he.addresses
  exact ⟨⟨hw, h.table, he.readable, hhms ▸ h.hms, hvips ▸ h.vip, hfips ▸ h.fips⟩, hchecks⟩

theorem Tended.added (h : Tended env nb row) {poolId : Str}
    (ha : ChecksAdded poolId nb row nb' row') : Tended env nb' row' := by
  refine ⟨ha.watched, ha.table h.table, h.readable.of_sameKeys ha.keys, ha.hms h.hms, ?_, ?_⟩
  · rw [lbVips_congr fun k hk => ha.keys.get? k (by revert k; decide)]
    exact h.vip
  · rw [lbhcFips_congr fun k hk => ha.keys.get? k (by revert k; decide)]
    exact h.fips

theorem Tended.deletedPorts (h : Tended env nb row) (ids : List Str) :
    Tended env { nb with deletedPorts := ids } row :=
  ⟨⟨⟨h.watched.wellFormed.nodup, h.watched.wellFormed.lt_next⟩, h.watched.found, h.watched.nodup,
    h.watched.present, h.watched.lt_next⟩, h.table, h.readable, h.hms, h.vip, h.fips⟩

/-- The creation of a monitor writes the statuses, adds the health checks and maps the
members. -/
structure CreationStages (env : Env) (info : HmInfo) (ds : List MemberData) (S : Str → Prop)
    (nb : Nb) (row : LoadBalancer) (nb' nb₂ : Nb) (row₂ : LoadBalancer)
    (e₁ e₃ maps : Dict Str Str) (ids : List Str) : Prop where
  restated : Restated env row.externalIds e₁
  online : ∀ id, (statusesIn e₁).get? id =
    if ∃ d ∈ ds, d.id = id then some ONLINE else (statusesIn row.externalIds).get? id
  adding : (addLbhc env row (getPoolKey info.poolId true) info).run Nb.apply
    (nb.putLb { row with externalIds := e₁ }) = (.ok true, nb₂)
  added : ChecksAdded info.poolId (nb.putLb { row with externalIds := e₁ })
    { row with externalIds := e₁ } nb₂ row₂
  tended : Tended env nb₂ row₂
  mapped : Restated env row₂.externalIds e₃
  statuses : ∀ id, (∀ m ∈ ds, m.id ≠ id) →
    (statusesIn e₃).get? id = (statusesIn row₂.externalIds).get? id
  mappings : ∀ k ∈ row₂.ipPortMappings.keys, S k → k ∈ maps.keys
  found : ∀ m, Reaches env nb ds ds m → PortFound env nb ds m.ip → S (mappingKey env m.ip) →
    mappingKey env m.ip ∈ maps.keys
  left : nb' = { nb₂.putLb { row₂ with externalIds := e₃, ipPortMappings := maps } with
    deletedPorts := ids }

theorem hmCreateOn_stages {S : Str → Prop} (h : Tended env nb row)
    (hv : row.externalIds.get? (getPoolKey info.poolId true) = some (poolValue ds))
    (hds : ∀ d ∈ ds, d.WellFormed env)
    (hS : (∀ m, Reaches env nb ds ds m → lookUpAddress env nb ds m.ip ≠ .ok .unsourced) ∨
      Survive env row (getPoolKey info.poolId true) ds S) :
    ∃ nb₂ row₂ e₁ e₃ maps ids, CreationStages env info ds S nb row
      ((hmCreateOn env info (getPoolKey info.poolId true) row).run Nb.apply nb).2
      nb₂ row₂ e₁ e₃ maps ids := by
  obtain ⟨entries, e₁, hrun₁, he₁, hs₁⟩ := run_updateMemberStatuses h.watched.wellFormed rfl
    h.watched.found h.readable hv hds ACTIVE ONLINE
  obtain ⟨h₁, -⟩ := h.put he₁ row.ipPortMappings
  obtain ⟨nb₂, row₂, hrun₂, hadd⟩ := run_addLbhc h₁.watched
    (show _ = row.uuid from rfl) h₁.readable h₁.vip
    h₁.fips h₁.hms info.poolId info
  have h₂ := h₁.added hadd
  have hpool₂ : ∀ k, hasPoolPrefix k = true →
      row₂.externalIds.get? k = row.externalIds.get? k := fun k hk =>
    (hadd.keys.poolPrefix k hk).trans (he₁.poolPrefix k hk)
  have hv₂ := (hpool₂ _ (hasPoolPrefix_poolKey info.poolId true)).trans hv
  have hu₂ : row₂.uuid = row.uuid := hadd.uuid
  have hout₂ : ∀ id, (∀ m ∈ ds, m.id ≠ id) →
      (statusesIn row₂.externalIds).get? id = (statusesIn row.externalIds).get? id := by
    intro id hid
    have hstat : statusesIn row₂.externalIds = statusesIn e₁ :=
      statusesIn_congr (hadd.keys.get? _ (by decide))
    rw [hstat, hs₁, if_neg]
    rintro ⟨m, hm, hmid⟩
    exact hid m hm hmid
  have hlook : ∀ ip, lookUpAddress env nb₂ ds ip = lookUpAddress env nb ds ip :=
    lookUpAddress_congr env (hadd.switches.trans rfl) ds
  obtain ⟨r, e₃, maps, ids, hrun₃, he₃, hs₃, hkept, hfound⟩ := run_monitorMembers
    (S := S) h₂.watched.wellFormed (show _ = row.uuid from hu₂) (hu₂ ▸ h₂.watched.found) h₂.readable
    (Readable.withStatuses_ne (poolKey_notMem_base info.poolId true)) hv₂ hds (fun m hm => hm)
    (hS.imp (fun h m hm => by
      simp only [Reaches, PortFound, hlook] at hm ⊢
      exact h m hm) fun h => h.rewritten hpool₂ hout₂)
  have hread : (readMembers row (getPoolKey info.poolId true)).run Nb.apply nb₂ =
    (.ok ds, nb₂) := by
    simp only [readMembers, Prog.run_bind, run_readLb, live_of_lb? (hu₂ ▸ h₂.watched.found), hv₂,
      Prog.run_ofExcept, extractMemberInfo_poolValue hds]
  refine ⟨nb₂, row₂, e₁, e₃, maps, ids, he₁, hs₁, hrun₂, hadd, h₂, he₃, hs₃, hkept,
    fun m hm hport => hfound m ?_ ?_, ?_⟩
  · simpa only [Reaches, PortFound, hlook] using hm
  · simpa only [PortFound, hlook] using hport
  · generalize ({ nb₂.putLb { row₂ with externalIds := e₃, ipPortMappings := maps } with
      deletedPorts := ids } : Nb) = nb₃ at hrun₃ ⊢
    simp only [hmCreateOn, Prog.run_bind, run_readLb, live_of_lb? h.watched.found, hrun₁, hrun₂,
      hread, hrun₃, Bool.not_true, Bool.false_eq_true, if_false]
    rcases r with exc | _ | _
    · rfl
    · rfl
    · have hlast := run_statusOf env (some row) nb₃
      simp only [Prog.run_bind] at hlast
      simp only [Bool.not_true, Bool.false_eq_true, if_false, Prog.run_bind]
      exact hlast _

end Creation

section Removal
variable {env : Env} {nb nb' : Nb} {row row' : LoadBalancer} {ds : List MemberData}
  {info : HmInfo}

/-- Each member is listed in one place. -/
def LoadBalancer.IdsApart (row : LoadBalancer) : Prop :=
  ∀ k k' d o, hasPoolPrefix k = true → hasPoolPrefix k' = true → row.ListsUnder k d →
    row.ListsUnder k' o → d.id = o.id → k = k' ∧ d = o

/-- The removal of a monitor writes the statuses, cleans the mappings and then destroys the
health checks in one transaction. -/
structure RemovalStages (env : Env) (info : HmInfo) (ds : List MemberData) (nb : Nb)
    (row : LoadBalancer) (hms : List Str) (nb' : Nb) (e maps : Dict Str Str) : Prop where
  restated : Restated env row.externalIds e
  statuses : ∀ id, (statusesIn e).get? id =
    if ∃ d ∈ ds, d.id = id then some NO_MONITOR else (statusesIn row.externalIds).get? id
  mappings : ∀ k ∈ row.ipPortMappings.keys,
    (∀ m ∈ ds, ¬{ row with externalIds := e }.Protects (getPoolKey info.poolId true) m.ip →
      mappingKey env m.ip ≠ k) → k ∈ maps.keys
  left : ∀ nb₃, (executeCommands ((lookupLbhcsByHmId nb info.id).flatMap (fun hc =>
        [.lbUpdate row.uuid (.removeHealthCheck hc.uuid), .hcDestroy hc.uuid]) ++
      [if hms.erase info.id = [] then .lbUpdate row.uuid (.removeExternalId lbExtIdsHmsKey)
        else setHms row (hms.erase info.id)])).run Nb.apply
      (nb.putLb { row with externalIds := e, ipPortMappings := maps }) = (.ok (), nb₃) →
    ∃ ids, nb' = { nb₃ with deletedPorts := ids }

theorem hmDeleteOn_stages (h : Watched nb row) (hr : Readable env row.externalIds)
    {hms : List Str} (hhms : loadHms row.externalIds = .ok hms)
    (hv : row.externalIds.get? (getPoolKey info.poolId true) = some (poolValue ds))
    (hds : ∀ d ∈ ds, d.WellFormed env) :
    ∃ e maps, RemovalStages env info ds nb row hms
      ((hmDeleteOn env info (lookupLbhcsByHmId nb info.id) row).run Nb.apply nb).2 e maps := by
  obtain ⟨entries, e₁, hrun₁, he₁, hs₁⟩ := run_updateMemberStatuses h.wellFormed rfl
    h.found hr hv hds ACTIVE NO_MONITOR
  obtain ⟨h₁, -⟩ := h.putLb { row with externalIds := e₁ } rfl rfl
  obtain ⟨maps, hrun₂, hmaps⟩ := run_cleanIpPortMappings
    row { row with externalIds := e₁ } h₁.wellFormed rfl
    h₁.found he₁.readable ((he₁.pool _ _).trans hv) hds
  refine ⟨e₁, maps, he₁, hs₁, hmaps, fun nb₃ hrun₃ => ?_⟩
  obtain ⟨ids, hids⟩ := run_portDeletes (.each (l := (ds.map MemberData.subnet).dedup)
    fun subnet _ => uses_cleanUpHmPort env (C := fun c => ∃ id, c = .portDelete id)
      (fun id => ⟨id, rfl⟩) subnet) nb₃
  have hput : (nb.putLb { row with externalIds := e₁ }).putLb
      { row with externalIds := e₁, ipPortMappings := maps } =
        nb.putLb { row with externalIds := e₁, ipPortMappings := maps } := Nb.putLb_putLb rfl
  rw [← hput] at hrun₃
  refine ⟨ids, ?_⟩
  simp only [hmDeleteOn, Prog.run_bind, run_readLb, live_of_lb? h.found, hv,
    Prog.run_ofExcept, extractMemberInfo_poolValue hds, Prog.run_pure, hrun₁, hhms, hrun₂, hrun₃]
  rw [← hids]
  rcases (Prog.each (cleanUpHmPort env) (ds.map MemberData.subnet).dedup).run Nb.apply nb₃ with
    ⟨e | _, s⟩
  · rfl
  · rfl

end Removal

end OvnOctavia
