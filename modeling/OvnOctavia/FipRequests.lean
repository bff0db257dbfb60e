import OvnOctavia.FipRoundTrip
import OvnOctavia.Links
import OvnOctavia.PortEvents
import OvnOctavia.Readable

/-!
The requests for floating IPs on all rows of a load balancer. Each changes the keys of
floating IPs of its row and leaves the other rows alone; the requests an update of a port
queues change the keys of every row in the same way.
-/

namespace OvnOctavia

section Rekeying
variable {nb s : Nb} {row : LoadBalancer} {keys : Dict Str Str}

/-- The row of the given one has these keys; its name and the other rows are as before. -/
structure Nb.Rekeyed (nb : Nb) (row : LoadBalancer) (keys : Dict Str Str) (s : Nb) : Prop where
  wellFormed : s.WellFormed
  found : ∃ row', s.lb? row.uuid = some row' ∧ row'.name = row.name ∧ row'.externalIds = keys
  others : ∀ v, v ≠ row.uuid → s.lb? v = nb.lb? v

theorem Nb.Rekeyed.refl (hw : nb.WellFormed) (h : nb.lb? row.uuid = some row) :
    nb.Rekeyed row row.externalIds nb :=
  ⟨hw, ⟨row, h, rfl, rfl⟩, fun _ _ => rfl⟩

theorem Nb.Rekeyed.putLb (h : nb.Rekeyed row keys s) {r : LoadBalancer} (hu : r.uuid = row.uuid)
    (hn : r.name = row.name) : nb.Rekeyed row r.externalIds (s.putLb r) := by
  obtain ⟨row', hrow', -, -⟩ := h.found
  refine ⟨h.wellFormed.putLb r, ⟨r, ?_, hn, rfl⟩, fun v hv => ?_⟩
  · rw [← hu]
    exact Nb.lb?_putLb r (hu ▸ hrow')
  · rw [Nb.lb?_putLb_of_ne s (hu ▸ hv), h.others v hv]

/-- The same rows in another store. -/
theorem Nb.Rekeyed.of_rows (h : nb.Rekeyed row keys s) {s' : Nb} (hw : s'.WellFormed)
    (hrows : s'.loadBalancers = s.loadBalancers) : nb.Rekeyed row keys s' := by
  have hlb : ∀ v, s'.lb? v = s.lb? v := fun v => by rw [Nb.lb?, Nb.lb?, hrows]
  refine ⟨hw, ?_, fun v hv => (hlb v).trans (h.others v hv)⟩
  rw [hlb]
  exact h.found

/-- What updates of a row make of its keys. -/
def LbOp.rekey (e : Dict Str Str) : LbOp → Dict Str Str
  | .setExternalIds kv => e.update kv
  | .removeExternalId k => e.erase k
  | _ => e

theorem LbOp.externalIds_foldl (ops : List LbOp) (row : LoadBalancer) :
    (ops.foldl LbOp.apply row).externalIds = ops.foldl LbOp.rekey row.externalIds := by
  induction ops generalizing row with
  | nil => rfl
  | cons op ops ih =>
      rw [List.foldl_cons, List.foldl_cons, ih]
      cases op <;> rfl

theorem LbOp.name_foldl (ops : List LbOp) (row : LoadBalancer) :
    (ops.foldl LbOp.apply row).name = row.name := by
  induction ops generalizing row with
  | nil => rfl
  | cons op ops ih => rw [List.foldl_cons, ih, LbOp.name_apply]

theorem Nb.Rekeyed.transact (h : nb.Rekeyed row keys s) (ops : List LbOp) :
    ∃ s', Prog.transact Nb.apply (ops.map (.lbUpdate row.uuid)) s = .ok s' ∧
      nb.Rekeyed row (ops.foldl LbOp.rekey keys) s' ∧ s'.healthChecks = s.healthChecks := by
  obtain ⟨row', hrow', hn, hkeys⟩ := h.found
  refine ⟨_, Nb.transact_row h.wellFormed hrow' ops rfl, ?_, rfl⟩
  have hput := h.putLb ((LbOp.uuid_foldl_apply ops row').trans (Nb.lb?_eq_some hrow').2)
    ((LbOp.name_foldl ops row').trans hn)
  rwa [LbOp.externalIds_foldl, hkeys] at hput

theorem Nb.Rekeyed.transact_hcCreate (h : nb.Rekeyed row keys s) (vip : Str)
    (options externalIds : Dict Str Str) :
    ∃ s', Prog.transact Nb.apply [.hcCreate row.uuid vip options externalIds] s = .ok s' ∧
      nb.Rekeyed row keys s' := by
  obtain ⟨row', hrow', -, -⟩ := h.found
  obtain ⟨t, ht, hkeys, -⟩ := h.transact [.addHealthCheck s.nextUuid]
  have happly : Nb.apply (.hcCreate row.uuid vip options externalIds) s =
      .ok { s.updateLb row.uuid (LbOp.apply · (.addHealthCheck s.nextUuid)) with
        healthChecks := s.healthChecks ++ [{ uuid := s.nextUuid, vip, options, externalIds }]
        nextUuid := s.nextUuid + 1 } := by
    simp only [Nb.apply, hrow']
  refine ⟨_, ?_, hkeys.of_rows (h.wellFormed.apply happly).1 ?_⟩
  · rw [Prog.transact_cons, happly]
    rfl
  · rw [List.map_singleton, Prog.transact_cons, Nb.apply_lbUpdate hrow'] at ht
    cases ht
    rfl

theorem Nb.Rekeyed.transact_hcDestroy (h : nb.Rekeyed row keys s) {hc : HealthCheck}
    (hhc : s.hc? hc.uuid = some hc) :
    ∃ s', Prog.transact Nb.apply
        [.lbUpdate row.uuid (.removeHealthCheck hc.uuid), .hcDestroy hc.uuid] s = .ok s' ∧
      nb.Rekeyed row keys s' := by
  obtain ⟨row', hrow', -, -⟩ := h.found
  obtain ⟨t, ht, hkeys, hchecks⟩ := h.transact [.removeHealthCheck hc.uuid]
  have hhc' : t.hc? hc.uuid = some hc := by rwa [Nb.hc?, hchecks]
  have happly : Nb.apply (.hcDestroy hc.uuid) t =
      .ok { t with healthChecks := t.healthChecks.filter (·.uuid ≠ hc.uuid) } := by
    simp only [Nb.apply, hhc']
  refine ⟨_, ?_, hkeys.of_rows (hkeys.wellFormed.apply happly).1 rfl⟩
  have hsplit : [Command.lbUpdate row.uuid (.removeHealthCheck hc.uuid), .hcDestroy hc.uuid] =
      [LbOp.removeHealthCheck hc.uuid].map (.lbUpdate row.uuid) ++ [.hcDestroy hc.uuid] := rfl
  rw [hsplit, Prog.transact_append, ht]
  exact congrArg (fun r => Except.bind r (Prog.transact Nb.apply [])) happly

end Rekeying

section Keys
variable {env : Env} {e e' : Dict Str Str} {f : Str}

/-- A floating IPv4 address. -/
structure IsFip (env : Env) (f : Str) : Prop where
  version : env.ipVersion f = some .v4
  ne_nil : f ≠ []
  comma : ',' ∉ f
  bracket : '[' ∉ f

def dropAdditFip (f : Str) (e : Dict Str Str) : Dict Str Str :=
  if f ∈ additFips e then
    if (additFips e).erase f ≠ [] then
      e.set lbExtIdsAdditVipFipKey (Str.join ',' ((additFips e).erase f))
    else e.erase lbExtIdsAdditVipFipKey
  else e

def dropVipFip (f : Str) (e : Dict Str Str) : Dict Str Str :=
  if e.get? lbExtIdsVipFipKey = some f then e.erase lbExtIdsVipFipKey else e

/-- The keys of a row once a request for a floating IP is handled. -/
def fipKeys (action : FipAction) (add : Bool) (f : Str) (e : Dict Str Str) : Dict Str Str :=
  match action with
  | .associate | .sync => e.set (fipKey add) (fipValue add f e)
  | .disassociate => dropVipFip f (dropAdditFip f e)

theorem additFips_congr
    (h : e'.get? lbExtIdsAdditVipFipKey = e.get? lbExtIdsAdditVipFipKey) :
    additFips e' = additFips e := by
  rw [additFips, additFips, h]

theorem comma_notMem_additFips {a : Str} (h : a ∈ additFips e) : ',' ∉ a := by
  rw [additFips] at h
  split at h
  · exact Str.notMem_of_mem_splitOn h
  · cases h

theorem splitOn_join_erase (f : Str) (hne : (additFips e).erase f ≠ []) :
    (Str.join ',' ((additFips e).erase f)).splitOn ',' = (additFips e).erase f :=
  Str.splitOn_join (fun _ ha => comma_notMem_additFips (List.mem_of_mem_erase ha)) hne

theorem join_erase_ne_nil (hnil : ∀ a ∈ additFips e, a ≠ []) (hne : (additFips e).erase f ≠ []) :
    Str.join ',' ((additFips e).erase f) ≠ [] := by
  intro he
  have hsplit := splitOn_join_erase f hne
  rw [he] at hsplit
  have hmem : [] ∈ (additFips e).erase f := hsplit ▸ List.mem_singleton_self _
  exact hnil _ (List.mem_of_mem_erase hmem) rfl

/-- The list without an address is what is read back. -/
theorem additFips_dropAdditFip (hnil : ∀ a ∈ additFips e, a ≠ []) :
    additFips (dropAdditFip f e) = (additFips e).erase f := by
  rw [dropAdditFip]
  split
  · split
    · next hne =>
        have hsplit := splitOn_join_erase f hne
        obtain ⟨c, t, hct⟩ := List.exists_cons_of_ne_nil (join_erase_ne_nil hnil hne)
        rw [hct] at hsplit
        rw [additFips, Dict.get?_set_self, hct]
        exact hsplit
    · next he =>
        rw [not_not] at he
        rw [additFips, Dict.get?_erase_self, he]
  · next hm => rw [List.erase_of_not_mem hm]

theorem get?_dropAdditFip {k : Str} (hk : k ≠ lbExtIdsAdditVipFipKey) :
    (dropAdditFip f e).get? k = e.get? k := by
  rw [dropAdditFip]
  split
  · split
    · exact Dict.get?_set_of_ne _ _ hk
    · exact Dict.get?_erase_of_ne _ hk
  · rfl

theorem get?_dropVipFip {k : Str} (hk : k ≠ lbExtIdsVipFipKey) :
    (dropVipFip f e).get? k = e.get? k := by
  rw [dropVipFip]
  split
  · exact Dict.get?_erase_of_ne _ hk
  · rfl

theorem get?_vip_dropVipFip :
    (dropVipFip f e).get? lbExtIdsVipFipKey =
      if e.get? lbExtIdsVipFipKey = some f then none else e.get? lbExtIdsVipFipKey := by
  rw [dropVipFip]
  split
  · exact Dict.get?_erase_self _ _
  · rfl

/-- Keys stay readable when only those of floating IPs change, to addresses. -/
theorem Readable.of_fips (hr : Readable env e)
    (hget : ∀ k, k ≠ fipKey true → k ≠ fipKey false → e'.get? k = e.get? k)
    (hfips : ∀ a ∈ lbFips e', (env.ipVersion a).isSome) : Readable env e' := by
  have hne : ∀ k ∉ baseKeys, k ≠ fipKey true ∧ k ≠ fipKey false := fun k hk =>
    ⟨fun h => hk (h ▸ fipKey_mem_base true), fun h => hk (h ▸ fipKey_mem_base false)⟩
  have hsame : ∀ k ∉ baseKeys, e'.get? k = e.get? k := fun k hk =>
    hget k (hne k hk).1 (hne k hk).2
  have hkeys : ∀ k ∉ baseKeys, (k ∈ e'.keys ↔ k ∈ e.keys) := fun k hk => by
    rw [← Dict.contains_iff, ← Dict.contains_iff, Dict.contains, Dict.contains, hsame k hk]
  have hstatus : e'.get? ovnMemberStatusKey = e.get? ovnMemberStatusKey :=
    hget _ (by decide) (by decide)
  constructor
  · intro k hk
    by_cases hb : k ∈ baseKeys
    · exact .inl hb
    · exact hr.key k ((hkeys k hb).mp hk)
  · rw [loadMemberStatuses_congr hstatus, statusesIn_congr hstatus]
    exact hr.statuses
  · intro id up v hid hv
    rw [hsame _ (listenerKey_notMem_base id up)] at hv
    exact hr.listener id up v hid hv
  · intro id up v hid hv
    rw [hsame _ (poolKey_notMem_base id up)] at hv
    exact hr.pool id up v hid hv
  · intro id hid h
    rw [hkeys _ (poolKey_notMem_base id true)] at h
    rw [hkeys _ (poolKey_notMem_base id false)]
    exact hr.sole id hid h
  · have hvips : lbVips e' = lbVips e := by
      rw [lbVips, lbVips, hget lbExtIdsVipKey (by decide) (by decide),
        hget lbExtIdsAdditVipKey (by decide) (by decide)]
    rw [hvips]
    exact hr.vips
  · exact hfips

/-- The list with an address added. -/
theorem IsFip.additFips_set (hf : IsFip env f) (hslot : e.get? lbExtIdsAdditVipFipKey ≠ some []) :
    additFips (e.set (fipKey true) (fipValue true f e)) = additFips e ++ [f] := by
  have ha : Associable env e true f := ⟨hf.version, hf.ne_nil, hf.comma, hf.bracket, hslot⟩
  exact ha.additFips_set

theorem IsFip.readable_set (hf : IsFip env f) (hr : Readable env e)
    (hslot : e.get? lbExtIdsAdditVipFipKey ≠ some []) (add : Bool) :
    Readable env (e.set (fipKey add) (fipValue add f e)) := by
  have hversion : (env.ipVersion f).isSome := by rw [hf.version]; rfl
  refine hr.of_fips (fun k hk hk' => Dict.get?_set_of_ne _ _ (by cases add <;> assumption))
    fun a ha => ?_
  rw [mem_lbFips] at ha
  cases add with
  | false =>
      rw [additFips_congr (Dict.get?_set_of_ne _ _ (by decide))] at ha
      rcases ha with ⟨hv, -⟩ | ha
      · rw [fipKey, if_neg Bool.false_ne_true, Dict.get?_set_self, Option.some.injEq] at hv
        exact hv ▸ hversion
      · exact hr.fips a (mem_lbFips.mpr (.inr ha))
  | true =>
      rw [hf.additFips_set hslot, List.mem_append, List.mem_singleton] at ha
      rcases ha with ⟨hv, hne⟩ | ha | rfl
      · rw [Dict.get?_set_of_ne _ _ (by decide)] at hv
        exact hr.fips a (mem_lbFips.mpr (.inl ⟨hv, hne⟩))
      · exact hr.fips a (mem_lbFips.mpr (.inr ha))
      · exact hversion

/-- The keys a removal frames: a list that stays does so as it was. -/
def dropFramed (f : Str) (e : Dict Str Str) : Dict Str Str :=
  dropVipFip f (if f ∈ additFips e ∧ (additFips e).erase f = [] then
    e.erase lbExtIdsAdditVipFipKey else e)

theorem Readable.dropVipFip (hr : Readable env e) (f : Str) :
    Readable env (dropVipFip f e) := by
  refine hr.of_fips (fun k _ hk' => get?_dropVipFip hk') fun a ha => ?_
  rw [mem_lbFips, get?_vip_dropVipFip, additFips_congr (get?_dropVipFip (by decide))] at ha
  refine hr.fips a (mem_lbFips.mpr ?_)
  rcases ha with ⟨hv, hne⟩ | ha
  · split at hv
    · cases hv
    · exact .inl ⟨hv, hne⟩
  · exact .inr ha

theorem Readable.dropFramed (hr : Readable env e) (f : Str) :
    Readable env (dropFramed f e) := by
  refine Readable.dropVipFip ?_ f
  split
  · refine hr.of_fips (fun k hk _ => Dict.get?_erase_of_ne _ hk) fun a ha => ?_
    rw [mem_lbFips, Dict.get?_erase_of_ne _ (by decide), additFips, Dict.get?_erase_self] at ha
    refine hr.fips a (mem_lbFips.mpr (.inl (ha.resolve_right List.not_mem_nil)))
  · exact hr

/-- The updates of a row that take an address away. -/
def dropOps (f : Str) (e : Dict Str Str) : List LbOp :=
  (if f ∈ additFips e then
    if (additFips e).erase f ≠ [] then
      [.setExternalIds (.single lbExtIdsAdditVipFipKey (Str.join ',' ((additFips e).erase f)))]
    else [.removeExternalId lbExtIdsAdditVipFipKey]
  else []) ++
  if e.get? lbExtIdsVipFipKey = some f then [.removeExternalId lbExtIdsVipFipKey] else []

theorem foldl_dropOps : (dropOps f e).foldl LbOp.rekey e = dropVipFip f (dropAdditFip f e) := by
  rw [dropOps, List.foldl_append]
  have haddit : List.foldl LbOp.rekey e (if f ∈ additFips e then
      if (additFips e).erase f ≠ [] then
        [.setExternalIds (.single lbExtIdsAdditVipFipKey (Str.join ',' ((additFips e).erase f)))]
      else [.removeExternalId lbExtIdsAdditVipFipKey]
    else []) = dropAdditFip f e := by
    rw [dropAdditFip]
    split
    · split
      · rw [List.foldl_cons, List.foldl_nil, LbOp.rekey, Dict.update_single]
      · rfl
    · rfl
  rw [haddit, dropVipFip, get?_dropAdditFip (by decide)]
  split <;> rfl

end Keys

section Runs
variable {env : Env} {nb : Nb} {row : LoadBalancer} {info : FipInfo}

theorem disassociateFip_drops (e : Dict Str Str) : disassociateFip env info e = (do
    let lbhcs ← healthChecksOf info.ovnLb
    let refresh ← refreshLbVips env info.ovnLb (dropFramed info.vipFip e) false
    executeCommands ((dropOps info.vipFip e).map (.lbUpdate info.ovnLb.uuid) ++
      dropCheckCommands info.ovnLb.uuid (lbhcs.find? fun hc => getVipLbhc hc = info.vipFip) ++
      refresh)) := by
  have herase : (e.erase lbExtIdsAdditVipFipKey).get? lbExtIdsVipFipKey =
      e.get? lbExtIdsVipFipKey := Dict.get?_erase_of_ne _ (by decide)
  rcases hget : e.get? lbExtIdsAdditVipFipKey with _ | _ | ⟨c, fips⟩
  · have hnone : additFips e = [] := by rw [additFips, hget]
    simp only [disassociateFip, dropFramed, dropOps, dropVipFip, hnone, hget, List.not_mem_nil,
      false_and, if_false]
    by_cases hv : e.get? lbExtIdsVipFipKey = some info.vipFip <;> simp [hv]
  · have hnone : additFips e = [] := by rw [additFips, hget]
    simp only [disassociateFip, dropFramed, dropOps, dropVipFip, hnone, hget, List.not_mem_nil,
      false_and, if_false]
    by_cases hv : e.get? lbExtIdsVipFipKey = some info.vipFip <;> simp [hv]
  · have hlist : additFips e = (c :: fips).splitOn ',' := by rw [additFips, hget]
    simp only [disassociateFip, dropFramed, dropOps, dropVipFip, hlist, hget]
    generalize (c :: fips).splitOn ',' = l
    by_cases hm : info.vipFip ∈ l <;> by_cases hrest : l.erase info.vipFip = [] <;>
      by_cases hv : e.get? lbExtIdsVipFipKey = some info.vipFip <;>
      simp only [hm, hrest, hv, herase, ne_eq, not_true_eq_false, not_false_eq_true, if_true,
        if_false, false_and, and_self, and_false] <;> rfl

theorem Nb.Rekeyed.run_copies {s : Nb} {keys : Dict Str Str} (h : nb.Rekeyed row keys s)
    {lb : LoadBalancer} (hlb : lb.uuid = row.uuid) (fip : Str) (l : List HealthCheck) :
    ∃ s', (Prog.each (fun hc => Prog.transaction [copyLbhc lb fip hc]) l).run Nb.apply s =
      (.ok (), s') ∧ nb.Rekeyed row keys s' := by
  refine Prog.run_each_inv (I := nb.Rekeyed row keys) (fun hc _ t ht => ?_) h
  rw [Prog.run_transaction, copyLbhc, hlb]
  obtain ⟨t', hrun, ht'⟩ := ht.transact_hcCreate (if checkLbhcVipFormat hc.vip then
    addressPort fip ((hc.vip.splitOn ':').getLastD []) else []) hc.options
    (hc.externalIds.set lbExtIdsHmVip fip)
  exact ⟨t', by rw [hrun], ht'⟩

/-- A request for a new address. -/
theorem rekeyed_associateFip (hw : nb.WellFormed) (hrow : nb.lb? info.ovnLb.uuid = some row)
    (hr : Readable env row.externalIds) (haction : info.action = .associate)
    (hslot : row.externalIds.get? lbExtIdsAdditVipFipKey ≠ some [])
    (hfip : IsFip env info.vipFip) :
    nb.Rekeyed row (row.externalIds.set (fipKey info.additionalVipFip)
        (fipValue info.additionalVipFip info.vipFip row.externalIds))
      ((handleVipFip env info).run Nb.apply nb).2 := by
  have hu : info.ovnLb.uuid = row.uuid := (Nb.lb?_eq_some hrow).2.symm
  have hassoc : associatedFip info row.externalIds = .ok (fipKey info.additionalVipFip,
      fipValue info.additionalVipFip info.vipFip row.externalIds) := by
    cases hadd : info.additionalVipFip with
    | false => simp [associatedFip, fipKey, fipValue, hadd]
    | true =>
        have ha : Associable env row.externalIds info.additionalVipFip info.vipFip :=
          ⟨hfip.version, hfip.ne_nil, hfip.comma, hfip.bracket, by rw [hadd]; exact hslot⟩
        rw [← hadd]
        exact ha.associated
  have hnew := hfip.readable_set hr hslot info.additionalVipFip
  generalize fipKey info.additionalVipFip = key at hassoc hnew
  generalize fipValue info.additionalVipFip info.vipFip row.externalIds = value at hassoc hnew
  obtain ⟨vips, hvips⟩ := hr.frame_ok hnew
  have hself : nb.Rekeyed row row.externalIds nb := .refl hw (hu ▸ hrow)
  obtain ⟨s, hcopies, hs⟩ := hself.run_copies hu info.vipFip
    ((nb.checksOf row).filter fun hc => getVipLbhc hc ∈ info.vipRelated)
  obtain ⟨row', hrow', -, hkeys'⟩ := hs.found
  have hlive : info.ovnLb.live s = row' := live_of_lb? (hu ▸ hrow')
  obtain ⟨t, ht, htk, -⟩ := hs.transact
    [.setExternalIds (.single key value), .clearVips, .setVips vips]
  have hne : (FipAction.associate = FipAction.sync) ↔ False := by decide
  simp only [handleVipFip, Prog.run_bind, run_readLb, live_of_lb? hrow, haction, associateFip,
    hassoc, Prog.run_ofExcept, run_healthChecksOf hrow, hne, decide_false, Bool.false_and,
    Bool.not_false, if_true, hcopies, run_refreshLbVips, hlive, hkeys', hvips, Except.map,
    Bool.false_eq_true, if_false, hu]
  change nb.Rekeyed row _ ((executeCommands ([LbOp.setExternalIds (.single key value), .clearVips,
    .setVips vips].map (.lbUpdate row.uuid))).run Nb.apply s).2
  rw [run_executeCommands, ht]
  rw [List.foldl_cons, LbOp.rekey, Dict.update_single] at htk
  exact htk

/-- A request that takes an address away. -/
theorem rekeyed_disassociateFip (hw : nb.WellFormed) (hrow : nb.lb? info.ovnLb.uuid = some row)
    (hr : Readable env row.externalIds) (haction : info.action = .disassociate) :
    nb.Rekeyed row (dropVipFip info.vipFip (dropAdditFip info.vipFip row.externalIds))
      ((handleVipFip env info).run Nb.apply nb).2 := by
  have hu : info.ovnLb.uuid = row.uuid := (Nb.lb?_eq_some hrow).2.symm
  have hself : nb.Rekeyed row row.externalIds nb := .refl hw (hu ▸ hrow)
  obtain ⟨vips, hvips⟩ := hr.frame_ok (hr.dropFramed info.vipFip)
  obtain ⟨s, hs, hsk, hchecks⟩ := hself.transact (dropOps info.vipFip row.externalIds)
  rw [foldl_dropOps] at hsk
  have hdrop : ∃ s', Prog.transact Nb.apply
      (dropCheckCommands row.uuid
        ((nb.checksOf row).find? fun hc => getVipLbhc hc = info.vipFip)) s = .ok s' ∧
      nb.Rekeyed row (dropVipFip info.vipFip (dropAdditFip info.vipFip row.externalIds)) s' := by
    cases hfind : (nb.checksOf row).find? fun hc => getVipLbhc hc = info.vipFip with
    | none => exact ⟨s, rfl, hsk⟩
    | some hc =>
        obtain ⟨u, -, hget⟩ := List.mem_filterMap.mp (List.mem_of_find?_eq_some hfind)
        have hhc : s.hc? hc.uuid = some hc := by
          rw [Nb.hc?, hchecks, (Nb.hc?_eq_some hget).2]
          exact hget
        exact hsk.transact_hcDestroy hhc
  obtain ⟨s', hs', hsk'⟩ := hdrop
  obtain ⟨t, ht, htk, -⟩ := hsk'.transact [.clearVips, .setVips vips]
  simp only [handleVipFip, Prog.run_bind, run_readLb, live_of_lb? hrow, haction,
    disassociateFip_drops, run_healthChecksOf hrow, run_refreshLbVips, hvips, Except.map,
    Bool.false_and, Bool.false_eq_true, if_false, hu, run_executeCommands]
  rw [List.append_assoc, Prog.transact_append, hs]
  simp only [Except.bind]
  rw [Prog.transact_append, hs']
  simp only [Except.bind]
  have hlast : Prog.transact Nb.apply
      [.lbUpdate row.uuid .clearVips, .lbUpdate row.uuid (.setVips vips)] s' = .ok t := ht
  rw [hlast]
  exact htk

/-- A request for a floating IP changes the keys of its row. -/
theorem rekeyed_handleVipFip (info : FipInfo) (hw : nb.WellFormed)
    (hrow : nb.lb? info.ovnLb.uuid = some row)
    (hr : Readable env row.externalIds) (hsync : info.action ≠ .sync)
    (hslot : row.externalIds.get? lbExtIdsAdditVipFipKey ≠ some [])
    (hfip : info.action = .associate → IsFip env info.vipFip) :
    nb.Rekeyed row (fipKeys info.action info.additionalVipFip info.vipFip row.externalIds)
      (handled env (.handleVipFip info) nb) := by
  rw [handled_eq, handle, Prog.run_map]
  cases haction : info.action with
  | associate => exact rekeyed_associateFip hw hrow hr haction hslot (hfip haction)
  | sync => exact absurd haction hsync
  | disassociate => exact rekeyed_disassociateFip hw hrow hr haction

end Runs

section Requests
variable {env : Env} {nb s : Nb} {rows : List LoadBalancer} {g : Dict Str Str → Dict Str Str}
  {related : List Str} {add : Bool} {f : Str} {action : FipAction}

/-- The request for a row. -/
def fipRequest (related : List Str) (add : Bool) (f : Str) (action : FipAction)
    (lb : LoadBalancer) : FipInfo :=
  { ovnLb := lb, vipFip := f, vipRelated := related, additionalVipFip := add, action }

/-- The keys of each of the rows are changed, and no other row. -/
structure Nb.AllRekeyed (nb : Nb) (g : Dict Str Str → Dict Str Str) (rows : List LoadBalancer)
    (s : Nb) : Prop where
  wellFormed : s.WellFormed
  found : ∀ row ∈ rows, ∃ row', s.lb? row.uuid = some row' ∧ row'.name = row.name ∧
    row'.externalIds = g row.externalIds
  others : ∀ v, (∀ row ∈ rows, row.uuid ≠ v) → s.lb? v = nb.lb? v

/-- The requests of an update, handled in order. -/
theorem allRekeyed_requests (hw : nb.WellFormed) (hn : (rows.map LoadBalancer.uuid).Nodup)
    (hsync : action ≠ .sync) (hfip : action = .associate → IsFip env f)
    (hrows : ∀ row ∈ rows, nb.lb? row.uuid = some row ∧ Readable env row.externalIds ∧
      row.externalIds.get? lbExtIdsAdditVipFipKey ≠ some []) :
    nb.AllRekeyed (fipKeys action add f) rows ((rows.map (fipRequest related add f action)).foldl
      (fun nb info => handled env (.handleVipFip info) nb) nb) := by
  induction rows generalizing nb with
  | nil => exact ⟨hw, nofun, fun _ _ => rfl⟩
  | cons row rows ih =>
      rw [List.map_cons, List.nodup_cons] at hn
      rw [List.forall_mem_cons] at hrows
      obtain ⟨⟨hrow, hr, hslot⟩, hrest⟩ := hrows
      have hone := rekeyed_handleVipFip (fipRequest related add f action row) hw hrow hr hsync
        hslot hfip
      rw [List.map_cons, List.foldl_cons]
      generalize handled env (.handleVipFip (fipRequest related add f action row)) nb = t at hone
      have hne : ∀ r ∈ rows, r.uuid ≠ row.uuid := fun r hm he =>
        hn.1 (he ▸ List.mem_map_of_mem hm)
      have hall := ih hone.wellFormed hn.2 fun r hm =>
        ⟨(hone.others _ (hne r hm)).trans (hrest r hm).1, (hrest r hm).2⟩
      refine ⟨hall.wellFormed, fun r hm => ?_, fun v hv => ?_⟩
      · rcases List.mem_cons.mp hm with rfl | hm
        · obtain ⟨row', hrow', hname, hkeys⟩ := hone.found
          exact ⟨row', (hall.others _ hne).trans hrow', hname, hkeys⟩
        · exact hall.found r hm
      · rw [List.forall_mem_cons] at hv
        exact (hall.others v hv.2).trans (hone.others v fun he => hv.1 he.symm)

theorem Nb.AllRekeyed.of_mem {lbId : Str} (h : nb.AllRekeyed g (nb.lbsNamed lbId) s)
    {row' : LoadBalancer} (hm : row' ∈ s.lbsNamed lbId) :
    ∃ row ∈ nb.lbsNamed lbId, row'.externalIds = g row.externalIds := by
  rw [Nb.mem_lbsNamed] at hm
  have hrow' := h.wellFormed.lb?_of_mem hm.1
  by_cases hall : ∀ row ∈ nb.lbsNamed lbId, row.uuid ≠ row'.uuid
  · rw [h.others _ hall] at hrow'
    exact absurd rfl (hall row' (Nb.mem_lbsNamed.mpr ⟨(Nb.lb?_eq_some hrow').1, hm.2⟩))
  · rw [not_forall] at hall
    obtain ⟨row, hall⟩ := hall
    rw [not_forall, exists_prop, not_not] at hall
    obtain ⟨r, hr, -, hkeys⟩ := h.found row hall.1
    rw [hall.2, hrow', Option.some.injEq] at hr
    exact ⟨row, hall.1, hr ▸ hkeys⟩

theorem Nb.AllRekeyed.mem {lbId : Str} (h : nb.AllRekeyed g (nb.lbsNamed lbId) s)
    {row : LoadBalancer} (hm : row ∈ nb.lbsNamed lbId) :
    ∃ row' ∈ s.lbsNamed lbId, row'.externalIds = g row.externalIds := by
  obtain ⟨row', hrow', hname, hkeys⟩ := h.found row hm
  exact ⟨row', Nb.mem_lbsNamed.mpr ⟨(Nb.lb?_eq_some hrow').1,
    hname.trans (Nb.mem_lbsNamed.mp hm).2⟩, hkeys⟩

theorem startsWith_portName (lbId : Str) (port : VipPort) :
    Str.startsWith lbVipPortPrefix (port.portName lbId) = true := by
  rw [Str.startsWith_iff]
  cases port with
  | vip => exact List.prefix_append _ _
  | additional index =>
      have hp : lbVipPortPrefix <+: lbVipAdditPortPrefix := ⟨"additional-".toList, rfl⟩
      rw [VipPort.portName, List.append_assoc]
      exact hp.trans (List.prefix_append _ _)

theorem run_vipPortUpdateHandler {lbId : Str} (hid : IsPatterned lbId) {row : LogicalSwitchPort}
    {port : VipPort}
    (hname : row.externalIds.get? ovnPortNameExtIdKey = some (port.portName lbId))
    (hclient : env.neutronClient = .ok ()) {p : Port} (hport : env.getPort row.name = .ok p)
    (hsync : action ≠ .sync) :
    (vipPortUpdateHandler env row f action).run Nb.apply nb =
      (.ok ((nb.lbsNamed lbId).map
        (fipRequest (p.fixedIps.map (·.ipAddress)) port.isAdditional f action)), nb) := by
  have hround : ∀ lbs : List LoadBalancer, (Prog.mapEach (fun lb => do
      let port' ← Prog.ofExcept (env.getPort row.name)
      let info : FipInfo :=
        { ovnLb := lb, vipFip := f, vipRelated := port'.fixedIps.map (·.ipAddress)
          additionalVipFip := port.isAdditional, action }
      if action ≠ .sync then
        return [info]
      else
        handleVipFip env info
        return [] : LoadBalancer → Nbctl (List FipInfo)) lbs).run Nb.apply nb =
      (.ok (lbs.map fun lb =>
        [fipRequest (p.fixedIps.map (·.ipAddress)) port.isAdditional f action lb]), nb) := by
    intro lbs
    induction lbs with
    | nil => rfl
    | cons lb lbs ih =>
        refine Prog.run_mapEach_ok Nb.apply ?_ ih
        simp only [hport, Prog.run_bind, Prog.run_ofExcept, if_pos hsync]
        rfl
  have hflat : ∀ lbs : List LoadBalancer, (lbs.map fun lb =>
      [fipRequest (p.fixedIps.map (·.ipAddress)) port.isAdditional f action lb]).flatten =
        lbs.map (fipRequest (p.fixedIps.map (·.ipAddress)) port.isAdditional f action) := by
    intro lbs
    induction lbs with
    | nil => rfl
    | cons lb lbs ih => rw [List.map_cons, List.flatten_cons, ih, List.map_cons]; rfl
  simp only [vipPortUpdateHandler, hname, lbOfPortName_portName hid, Prog.run_bind,
    Prog.run_attempt, run_findOvnLbs]
  by_cases hnil : nb.lbsNamed lbId = []
  · simp only [hnil, if_true]
    rfl
  · simp only [if_neg hnil, hclient, Prog.run_bind, Prog.run_ofExcept, hround]
    rw [← hflat]
    rfl

theorem action_ne_sync {row : LogicalSwitchPort} {old : Dict Str Str} {fip : Option Str}
    (h : LogicalSwitchPortUpdateEvent.action row old = some (fip, action)) : action ≠ .sync := by
  rw [LogicalSwitchPortUpdateEvent.action] at h
  split at h
  · split at h <;> cases h <;> decide
  · cases h

/-- An update of a port of the load balancer queues one request for each of its rows. -/
theorem portRequests_eq {lbId : Str} (hid : IsPatterned lbId) {row : LogicalSwitchPort}
    {old : Dict Str Str} {port : VipPort}
    (hname : row.externalIds.get? ovnPortNameExtIdKey = some (port.portName lbId))
    (hclient : env.neutronClient = .ok ()) {p : Port} (hport : env.getPort row.name = .ok p) :
    portRequests env row old nb = match LogicalSwitchPortUpdateEvent.action row old with
      | some (some f, action) => ((nb.lbsNamed lbId).map
          (fipRequest (p.fixedIps.map (·.ipAddress)) port.isAdditional f action)).map some
      | some (none, _) => (nb.lbsNamed lbId).map fun _ => none
      | none => [] := by
  have hmatch : LogicalSwitchPortUpdateEvent.matchFn row (some old) = true := by
    rw [LogicalSwitchPortUpdateEvent.matchFn, hname]
    exact startsWith_portName lbId port
  rw [portRequests, if_pos hmatch, LogicalSwitchPortUpdateEvent.run]
  cases haction : LogicalSwitchPortUpdateEvent.action row old with
  | none => rfl
  | some change =>
      obtain ⟨fip, action⟩ := change
      cases fip with
      | some f =>
          dsimp only
          rw [Prog.run_map, run_vipPortUpdateHandler hid hname hclient hport
            (action_ne_sync haction)]
          rfl
      | none =>
          dsimp only
          rw [Prog.run_map, run_vipPortUpdateHandler hid hname hclient hport
            (action_ne_sync haction)]
          exact List.map_map ..

end Requests

end OvnOctavia
