import OvnOctavia.CheckOwners
import OvnOctavia.FipRoundTrip
import OvnOctavia.MonitorOutcomes

/-!
A monitor that is created and deleted again, with floating IPs that come and go between.
The health checks of the monitor stay on the row of its pool, and one of them, that of the
first address, stays until the monitor is deleted.
-/

namespace OvnOctavia

section Floating
variable {env : Env} {e e' : Dict Str Str} {f a : Str} {row : LoadBalancer}

/-- The addresses in the value of a key of floating IPs. -/
def fipPieces (add : Bool) (value : Str) : List Str := if add then value.splitOn ',' else [value]

theorem mem_lbhcFips : a ∈ lbhcFips e ↔
    ∃ add value, e.get? (fipKey add) = some value ∧ a ∈ fipPieces add value := by
  rw [lbhcFips, List.mem_append, Bool.exists_bool]
  refine or_congr ?_ ?_
  · simp only [Option.mem_toList, fipKey, fipPieces, Bool.false_eq_true, if_false,
      List.mem_singleton]
    constructor
    · exact fun h => ⟨a, h, rfl⟩
    · rintro ⟨_, h, rfl⟩
      exact h
  · simp only [fipKey, fipPieces, if_true]
    cases e.get? lbExtIdsAdditVipFipKey with
    | none => simp
    | some fips => simp

theorem mem_lbhcFips_of_mem_lbFips (h : a ∈ lbFips e) : a ∈ lbhcFips e := by
  rw [mem_lbhcFips]
  rcases mem_lbFips.mp h with ⟨hget, -⟩ | hm
  · exact ⟨false, a, hget, List.mem_singleton_self a⟩
  · rw [additFips] at hm
    rcases hget : e.get? lbExtIdsAdditVipFipKey with _ | _ | ⟨c, fips⟩
    · simp [hget] at hm
    · simp [hget] at hm
    · rw [hget] at hm
      exact ⟨true, c :: fips, hget, hm⟩

/-- Only the keys of floating IPs differ, and a new floating IP is `f`. -/
structure Refloated (f : Str) (e e' : Dict Str Str) : Prop where
  get? : ∀ k, (∀ add, k ≠ fipKey add) → e'.get? k = e.get? k
  fips : ∀ a ∈ lbhcFips e', a ∈ lbhcFips e ∨ a = f

theorem Refloated.refl (f : Str) (e : Dict Str Str) : Refloated f e e :=
  ⟨fun _ _ => rfl, fun _ ha => .inl ha⟩

theorem Refloated.set (h : Refloated f e e') (add : Bool) {value : Str}
    (hv : ∀ a ∈ fipPieces add value, a ∈ lbhcFips e ∨ a = f) :
    Refloated f e (e'.set (fipKey add) value) := by
  refine ⟨fun k hk => (Dict.get?_set_of_ne _ _ (hk add)).trans (h.get? k hk), fun a ha => ?_⟩
  obtain ⟨add', value', hget, hm⟩ := mem_lbhcFips.mp ha
  by_cases hadd : fipKey add' = fipKey add
  · obtain rfl : add' = add := by
      revert hadd
      cases add' <;> cases add <;> decide
    rw [Dict.get?_set_self] at hget
    cases hget
    exact hv a hm
  · rw [Dict.get?_set_of_ne _ _ hadd] at hget
    exact h.fips a (mem_lbhcFips.mpr ⟨add', value', hget, hm⟩)

theorem Refloated.erase (h : Refloated f e e') (add : Bool) :
    Refloated f e (e'.erase (fipKey add)) := by
  refine ⟨fun k hk => (Dict.get?_erase_of_ne _ (hk add)).trans (h.get? k hk), fun a ha => ?_⟩
  obtain ⟨add', value', hget, hm⟩ := mem_lbhcFips.mp ha
  by_cases hadd : fipKey add' = fipKey add
  · rw [hadd, Dict.get?_erase_self] at hget
    cases hget
  · rw [Dict.get?_erase_of_ne _ hadd] at hget
    exact h.fips a (mem_lbhcFips.mpr ⟨add', value', hget, hm⟩)

theorem Refloated.get?_of_notMem (h : Refloated f e e') {k : Str} (hk : k ∉ baseKeys) :
    e'.get? k = e.get? k :=
  h.get? k fun add he => hk (he ▸ fipKey_mem_base add)

theorem Refloated.mem_keys (h : Refloated f e e') {k : Str} (hk : k ∉ baseKeys) :
    k ∈ e'.keys ↔ k ∈ e.keys := by
  rw [← Dict.contains_iff, ← Dict.contains_iff, Dict.contains, Dict.contains,
    h.get?_of_notMem hk]

theorem Refloated.readable (h : Refloated f e e') (hr : Readable env e)
    (hfips : ∀ a ∈ lbhcFips e', (env.ipVersion a).isSome) : Readable env e' where
  key := by
    intro k hk
    by_cases hb : k ∈ baseKeys
    · exact .inl hb
    · exact hr.key k ((h.mem_keys hb).mp hk)
  statuses := by
    have hst : e'.get? ovnMemberStatusKey = e.get? ovnMemberStatusKey :=
      h.get? _ fun add => by cases add <;> decide
    rw [loadMemberStatuses_congr hst, statusesIn_congr hst]
    exact hr.statuses
  listener := fun id up v hid hv =>
    hr.listener id up v hid (h.get?_of_notMem (listenerKey_notMem_base id up) ▸ hv)
  pool := fun id up v hid hv =>
    hr.pool id up v hid (h.get?_of_notMem (poolKey_notMem_base id up) ▸ hv)
  sole := by
    intro id hid
    rw [h.mem_keys (poolKey_notMem_base id true), h.mem_keys (poolKey_notMem_base id false)]
    exact hr.sole id hid
  vips := by
    have hvips : lbVips e' = lbVips e := by
      refine lbVips_congr fun k hk => h.get? k fun add => ?_
      simp only [List.mem_cons, List.not_mem_nil, or_false] at hk
      rcases hk with rfl | rfl <;> cases add <;> decide
    rw [hvips]
    exact hr.vips
  fips := fun a ha => hfips a (mem_lbhcFips_of_mem_lbFips ha)

/-- An update that a floating IP causes in a row with the keys `e`. -/
inductive LbOp.Floats (f : Str) (e : Dict Str Str) : LbOp → Prop
  | set (add : Bool) (value : Str) (h : ∀ a ∈ fipPieces add value, a ∈ lbhcFips e ∨ a = f) :
      Floats f e (.setExternalIds (.single (fipKey add) value))
  | remove (add : Bool) : Floats f e (.removeExternalId (fipKey add))
  | clear : Floats f e .clearVips
  | traffic (vips : Dict Str Str) : Floats f e (.setVips vips)

theorem LbOp.Floats.refloated {op : LbOp} (h : op.Floats f e)
    (hrow : Refloated f e row.externalIds) :
    Refloated f e (LbOp.apply row op).externalIds ∧
      (LbOp.apply row op).healthCheck = row.healthCheck := by
  cases h with
  | set add value hv =>
      refine ⟨?_, rfl⟩
      simp only [LbOp.apply, Dict.update_single]
      exact hrow.set add hv
  | remove add => exact ⟨hrow.erase add, rfl⟩
  | clear => exact ⟨hrow, rfl⟩
  | traffic vips => exact ⟨hrow, rfl⟩

theorem LbOp.Floats.refloated_foldl {ops : List LbOp} (h : ∀ op ∈ ops, op.Floats f e)
    (hrow : Refloated f e row.externalIds) :
    Refloated f e (ops.foldl LbOp.apply row).externalIds ∧
      (ops.foldl LbOp.apply row).healthCheck = row.healthCheck := by
  induction ops generalizing row with
  | nil => exact ⟨hrow, rfl⟩
  | cons op ops ih =>
      obtain ⟨hkeys, hchecks⟩ := (h op (List.mem_cons_self ..)).refloated hrow
      obtain ⟨hkeys', hchecks'⟩ := ih (fun o ho => h o (List.mem_cons_of_mem _ ho)) hkeys
      exact ⟨hkeys', hchecks'.trans hchecks⟩

end Floating

section Invariant
variable {env : Env} {nb : Nb} {row row' : LoadBalancer} {h poolId : Str} {prev : List Str}
  {ds : List MemberData} {u : Nat} {first : HealthCheck} {e e' : Dict Str Str} {us : List Nat}

/-- The keys of the row the monitor was added to, after the monitors it had. -/
structure ListsMonitor (env : Env) (h : Str) (prev : List Str) (poolId : Str)
    (ds : List MemberData) (e : Dict Str Str) : Prop where
  readable : Readable env e
  hms : e.get? lbExtIdsHmsKey = some (Json.dumpsList (prev ++ [h]))
  pool : e.get? (getPoolKey poolId true) = some (poolValue ds)
  fips : ∀ a ∈ lbhcFips e, (env.ipVersion a).isSome

theorem ListsMonitor.refloated (hl : ListsMonitor env h prev poolId ds e) {f : Str}
    (hf : Refloated f e e') (hip : (env.ipVersion f).isSome) :
    ListsMonitor env h prev poolId ds e' := by
  have hfips : ∀ a ∈ lbhcFips e', (env.ipVersion a).isSome := by
    intro a ha
    rcases hf.fips a ha with ha | rfl
    · exact hl.fips a ha
    · exact hip
  refine ⟨hf.readable hl.readable hfips, ?_, ?_, hfips⟩
  · rw [hf.get? _ fun add => by cases add <;> decide]
    exact hl.hms
  · rw [hf.get?_of_notMem (poolKey_notMem_base poolId true)]
    exact hl.pool

theorem ListsMonitor.restated (hl : ListsMonitor env h prev poolId ds e)
    (he : Restated env e e') : ListsMonitor env h prev poolId ds e' := by
  obtain ⟨-, -, hfips⟩ := he.addresses
  refine ⟨he.readable, ?_, (he.pool poolId true).trans hl.pool, hfips ▸ hl.fips⟩
  exact (he.get? _ (by decide)).trans hl.hms

/-- The store while the monitor `h` is there: its row `u` lists it, the health check `first`
is one of it, and its health checks are on that row only. -/
structure Monitored (env : Env) (h : Str) (prev : List Str) (poolId : Str)
    (ds : List MemberData) (u : Nat) (first : HealthCheck) (nb : Nb) : Prop where
  sound : nb.Sound
  row : ∃ row, nb.lb? u = some row ∧ ListsMonitor env h prev poolId ds row.externalIds
  mark : first.externalIds.get? lbExtIdsHmKey = some h
  there : first ∈ nb.healthChecks
  owned : ∀ v, ∀ hc ∈ nb.healthChecks, hc.externalIds.get? lbExtIdsHmKey = some h →
    nb.Refers v hc.uuid → v = u
  alone : ∀ v row, v ≠ u → nb.lb? v = some row →
    ∀ t, row.externalIds.get? lbExtIdsHmsKey = some t → Str.contains h t = false

namespace Monitored

theorem putLb (hm : Monitored env h prev poolId ds u first nb)
    (hrow : nb.lb? row'.uuid = some row) (hchecks : row'.healthCheck = row.healthCheck)
    (hlists : row'.uuid = u → ListsMonitor env h prev poolId ds row.externalIds →
      ListsMonitor env h prev poolId ds row'.externalIds)
    (hhms : row'.externalIds.get? lbExtIdsHmsKey = row.externalIds.get? lbExtIdsHmsKey) :
    Monitored env h prev poolId ds u first (nb.putLb row') := by
  refine ⟨hm.sound.putLb hrow hchecks, ?_, hm.mark, hm.there,
    fun v hc hin hkey hr => hm.owned v hc hin hkey ((Nb.refers_putLb hrow hchecks).mp hr),
    fun v lb hv hlb => ?_⟩
  · obtain ⟨lb, hlb, hkeys⟩ := hm.row
    rw [Nb.lb?_put hrow]
    split
    · next hu =>
        rw [hu, hrow] at hlb
        cases hlb
        exact ⟨row', rfl, hlists hu.symm hkeys⟩
    · exact ⟨lb, hlb, hkeys⟩
  · rw [Nb.lb?_put hrow] at hlb
    split at hlb
    · next hu =>
        cases hlb
        rw [hhms]
        exact hm.alone v row hv (hu ▸ hrow)
    · exact hm.alone v lb hv hlb

theorem withCheck (hm : Monitored env h prev poolId ds u first nb)
    (hrow : nb.lb? row.uuid = some row) (vip : Str) (options externalIds : Dict Str Str)
    (hown : externalIds.get? lbExtIdsHmKey = some h → row.uuid = u) :
    Monitored env h prev poolId ds u first (nb.withCheck row vip options externalIds) := by
  have hlb := Nb.lb?_withCheck hrow vip options externalIds
  refine ⟨hm.sound.withCheck hrow vip options externalIds, ?_, hm.mark,
    List.mem_append_left _ hm.there, fun v hc hin hkey hr => ?_, fun v lb hv hget => ?_⟩
  · obtain ⟨lb, hget, hkeys⟩ := hm.row
    rw [hlb]
    split
    · next hu =>
        rw [hu, hrow] at hget
        cases hget
        exact ⟨_, rfl, hkeys⟩
    · exact ⟨lb, hget, hkeys⟩
  · rw [Nb.refers_withCheck hrow] at hr
    have hin : hc ∈ nb.healthChecks ++ [⟨nb.nextUuid, vip, options, externalIds⟩] := hin
    rcases List.mem_append.mp hin with hin | hin
    · rcases hr with hr | ⟨-, he⟩
      · exact hm.owned v hc hin hkey hr
      · exact absurd he (Nat.ne_of_lt (hm.sound.lt_next hc hin))
    · rw [List.mem_singleton.mp hin] at hkey hr
      rcases hr with hr | ⟨rfl, -⟩
      · exact absurd (hm.sound.refers_lt hr) (Nat.lt_irrefl _)
      · exact hown hkey
  · rw [hlb] at hget
    split at hget
    · next hu =>
        cases hget
        exact hm.alone v row hv (hu ▸ hrow)
    · exact hm.alone v lb hv hget

theorem dropCheck (hm : Monitored env h prev poolId ds u first nb)
    (hrow : nb.lb? row.uuid = some row) {hc : HealthCheck} (hin : hc.uuid ∈ row.healthCheck)
    (hne : hc.uuid ≠ first.uuid) :
    Monitored env h prev poolId ds u first (nb.dropCheck row hc.uuid) := by
  rw [Nb.dropCheck_eq]
  have hlb := Nb.lb?_dropChecks hrow [hc.uuid]
  have hown : ∀ v, ∀ x ∈ [hc.uuid], nb.Refers v x → v = row.uuid := by
    intro v x hx hr
    rw [List.mem_singleton.mp hx] at hr
    exact hm.sound.owner v row.uuid _ hr ((Nb.refers_iff hrow).mpr hin)
  refine ⟨hm.sound.dropChecks hrow hown, ?_, hm.mark, ?_, fun v c hin' hkey hr => ?_,
    fun v lb hv hget => ?_⟩
  · obtain ⟨lb, hget, hkeys⟩ := hm.row
    rw [hlb]
    split
    · next hu =>
        rw [hu, hrow] at hget
        cases hget
        exact ⟨_, rfl, hkeys⟩
    · exact ⟨lb, hget, hkeys⟩
  · refine List.mem_filter.mpr ⟨hm.there, decide_eq_true ?_⟩
    rw [List.mem_singleton]
    exact hne.symm
  · exact hm.owned v c (List.mem_of_mem_filter hin') hkey ((Nb.refers_dropChecks hrow).mp hr).1
  · rw [hlb] at hget
    split at hget
    · next hu =>
        cases hget
        exact hm.alone v row hv (hu ▸ hrow)
    · exact hm.alone v lb hv hget

theorem deletedPorts (hm : Monitored env h prev poolId ds u first nb) (ids : List Str) :
    Monitored env h prev poolId ds u first { nb with deletedPorts := ids } :=
  ⟨hm.sound.deletedPorts ids, hm.row, hm.mark, hm.there, hm.owned, hm.alone⟩

/-- Updates that a floating IP causes in any row keep the monitor. -/
theorem floats (hm : Monitored env h prev poolId ds u first nb) {f : Str} {ops : List LbOp}
    (hrow : nb.lb? row.uuid = some row) (hip : (env.ipVersion f).isSome)
    (hops : ∀ op ∈ ops, op.Floats f row.externalIds) :
    Monitored env h prev poolId ds u first (nb.putLb (ops.foldl LbOp.apply row)) ∧
      (ops.foldl LbOp.apply row).healthCheck = row.healthCheck := by
  obtain ⟨hkeys, hchecks⟩ := LbOp.Floats.refloated_foldl hops (.refl f row.externalIds)
  have hu := LbOp.uuid_foldl_apply ops row
  refine ⟨hm.putLb (hu ▸ hrow) hchecks (fun _ hl => hl.refloated hkeys hip) ?_, hchecks⟩
  exact hkeys.get? _ fun add => by cases add <;> decide

end Monitored

end Invariant

section Events
variable {env : Env} {nb : Nb} {row : LoadBalancer} {h poolId : Str} {prev : List Str}
  {ds : List MemberData} {u : Nat} {first : HealthCheck} {e : Dict Str Str} {info : FipInfo}

theorem mem_fipPieces_associated {key value : Str}
    (hok : associatedFip info e = .ok (key, value)) (hcomma : ',' ∉ info.vipFip) :
    ∃ add, key = fipKey add ∧
      ∀ a ∈ fipPieces add value, a ∈ lbhcFips e ∨ a = info.vipFip := by
  rw [associatedFip] at hok
  cases hadd : info.additionalVipFip with
  | false =>
      rw [hadd, if_neg Bool.false_ne_true] at hok
      cases hok
      exact ⟨false, rfl, fun a ha => .inr (List.mem_singleton.mp ha)⟩
  | true =>
      rw [hadd, if_pos rfl] at hok
      refine ⟨true, ?_⟩
      rcases hget : e.get? lbExtIdsAdditVipFipKey with _ | _ | ⟨c, fips⟩
      · rw [hget] at hok
        cases hok
        refine ⟨rfl, fun a ha => .inr ?_⟩
        rw [fipPieces, if_pos rfl, List.splitOn_eq_singleton hcomma] at ha
        exact List.mem_singleton.mp ha
      · rw [hget] at hok
        cases hok
      · rw [hget] at hok
        cases hok
        refine ⟨rfl, fun a ha => ?_⟩
        rw [fipPieces, if_pos rfl, List.splitOn_append_cons_self,
          List.splitOn_eq_singleton hcomma, List.mem_append, List.mem_singleton] at ha
        exact ha.imp_left fun ha => mem_lbhcFips.mpr ⟨true, _, hget, ha⟩

/-- The keys and the commands when a floating IP is taken out of the additional ones. -/
def additFipTaken (info : FipInfo) (present : Dict Str Str) : Dict Str Str × List Command :=
  let lb := info.ovnLb.uuid
  let rest := (additFips present).erase info.vipFip
  if info.vipFip ∈ additFips present then
    if rest ≠ [] then (present,
      [.lbUpdate lb (.setExternalIds (.single lbExtIdsAdditVipFipKey (Str.join ',' rest)))])
    else (present.erase lbExtIdsAdditVipFipKey,
      [.lbUpdate lb (.removeExternalId lbExtIdsAdditVipFipKey)])
  else (present, [])

/-- The keys and the commands when it is then taken away as that of the VIP. -/
def fipTaken (info : FipInfo) (present : Dict Str Str) : Dict Str Str × List Command :=
  let (left, additionalCommands) := additFipTaken info present
  if left.get? lbExtIdsVipFipKey = some info.vipFip then
    (left.erase lbExtIdsVipFipKey, additionalCommands ++
      [.lbUpdate info.ovnLb.uuid (.removeExternalId lbExtIdsVipFipKey)])
  else (left, additionalCommands ++ [])

theorem disassociateFip_eq (env : Env) (info : FipInfo) (present : Dict Str Str) :
    disassociateFip env info present = (do
      let lbhcs ← healthChecksOf info.ovnLb
      let refresh ← refreshLbVips env info.ovnLb (fipTaken info present).1 false
      executeCommands ((fipTaken info present).2 ++
        dropCheckCommands info.ovnLb.uuid (lbhcs.find? fun hc => getVipLbhc hc = info.vipFip) ++
        refresh)) := by
  have hsplit : fipTaken info present =
      ((if (additFipTaken info present).1.get? lbExtIdsVipFipKey = some info.vipFip then
          ((additFipTaken info present).1.erase lbExtIdsVipFipKey,
            [Command.lbUpdate info.ovnLb.uuid (.removeExternalId lbExtIdsVipFipKey)])
        else ((additFipTaken info present).1, [])).1, (additFipTaken info present).2 ++
        (if (additFipTaken info present).1.get? lbExtIdsVipFipKey = some info.vipFip then
          ((additFipTaken info present).1.erase lbExtIdsVipFipKey,
            [Command.lbUpdate info.ovnLb.uuid (.removeExternalId lbExtIdsVipFipKey)])
        else ((additFipTaken info present).1, [])).2) := by
    simp only [fipTaken]
    split <;> rfl
  rw [hsplit]
  rfl

theorem additFipTaken_floats (info : FipInfo) (e : Dict Str Str) :
    ∃ ops : List LbOp, (additFipTaken info e).2 = ops.map (.lbUpdate info.ovnLb.uuid) ∧
      ∀ op ∈ ops, op.Floats info.vipFip e := by
  have hpiece : ∀ a ∈ additFips e, a ∈ lbhcFips e ∧ ',' ∉ a := by
    intro a ha
    refine ⟨mem_lbhcFips_of_mem_lbFips (mem_lbFips.mpr (.inr ha)), ?_⟩
    rw [additFips] at ha
    split at ha
    · exact Str.notMem_of_mem_splitOn ha
    · cases ha
  simp only [additFipTaken]
  split
  · split
    · next hrest =>
        refine ⟨[_], rfl, List.forall_mem_singleton.mpr (.set true _ fun a ha => ?_)⟩
        rw [fipPieces, if_pos rfl, Str.splitOn_join
          (fun x hx => (hpiece x (List.mem_of_mem_erase hx)).2) hrest] at ha
        exact .inl (hpiece a (List.mem_of_mem_erase ha)).1
    · exact ⟨[_], rfl, List.forall_mem_singleton.mpr (.remove true)⟩
  · exact ⟨[], rfl, List.forall_mem_nil _⟩

theorem fipTaken_floats (info : FipInfo) (e : Dict Str Str) :
    ∃ ops : List LbOp, (fipTaken info e).2 = ops.map (.lbUpdate info.ovnLb.uuid) ∧
      ∀ op ∈ ops, op.Floats info.vipFip e := by
  obtain ⟨ops, hops, hfloats⟩ := additFipTaken_floats info e
  simp only [fipTaken, hops]
  split
  · refine ⟨ops ++ [.removeExternalId lbExtIdsVipFipKey], by simp, ?_⟩
    exact List.forall_mem_append.mpr ⟨hfloats, List.forall_mem_singleton.mpr (.remove false)⟩
  · exact ⟨ops, by simp, hfloats⟩

section Missing
variable {x : Nat}

/-- What begins with an update of a row that is gone changes nothing. -/
theorem keeps_executeCommands_of_missing (hnone : nb.lb? x = none) {cs : List Command}
    (hcs : ∀ c ∈ cs.head?, ∃ op, c = .lbUpdate x op) :
    Prog.Keeps Nb.apply (· = nb) (executeCommands cs) fun _ => True := by
  rintro s rfl
  refine ⟨?_, fun _ _ => trivial⟩
  cases cs with
  | nil => rfl
  | cons c cs =>
      obtain ⟨op, rfl⟩ := hcs c rfl
      rw [run_executeCommands, Prog.transact_cons]
      simp only [Nb.apply, hnone]
      rfl

theorem keeps_refreshLbVips (lb : LoadBalancer) (e : Dict Str Str) (isSync : Bool) :
    Prog.Keeps Nb.apply (· = nb) (refreshLbVips env lb e isSync) fun cs =>
      ∀ c ∈ cs.head?, ∃ op, c = .lbUpdate lb.uuid op := by
  rintro s rfl
  rw [run_refreshLbVips]
  refine ⟨rfl, fun cs hcs => ?_⟩
  obtain ⟨vips, -, rfl⟩ := Except.map_eq_ok.mp hcs
  split
  · nofun
  · rintro c ⟨⟩
    exact ⟨_, rfl⟩

theorem head?_append_lbUpdate {cs ds : List Command}
    (hcs : ∀ c ∈ cs.head?, ∃ op, c = .lbUpdate x op)
    (hds : ∀ c ∈ ds.head?, ∃ op, c = .lbUpdate x op) :
    ∀ c ∈ (cs ++ ds).head?, ∃ op, c = .lbUpdate x op := by
  cases cs with
  | nil => exact hds
  | cons c cs => exact hcs

/-- A request about the floating IP of a row that is gone changes nothing. -/
theorem handled_fip_of_missing (hnone : nb.lb? info.ovnLb.uuid = none) :
    handled env (.handleVipFip info) nb = nb := by
  have hassociate : ∀ present, Prog.Keeps Nb.apply (· = nb)
      (OvnOctavia.associateFip env info present) fun _ => True := by
    intro present
    refine .bind (.ofExcept (R := fun _ => True) fun _ _ => trivial) fun kv _ => ?_
    refine .bind (.read (R := fun _ => True) fun _ _ => .pure trivial) fun row _ => ?_
    refine .bind (.read (R := fun _ => True) fun _ _ => .pure trivial) fun lbhcs _ => ?_
    have hcopies : Prog.Keeps Nb.apply (· = nb)
        (Prog.each (fun hc => Prog.transaction [copyLbhc info.ovnLb info.vipFip hc])
          (lbhcs.filter fun hc => getVipLbhc hc ∈ info.vipRelated)) fun _ => True := by
      refine .each fun hc _ s hs => ⟨?_, fun _ _ => trivial⟩
      subst hs
      simp only [Prog.run_transaction, Prog.transact_cons, copyLbhc, Nb.apply, hnone]
      rfl
    have hlast : ∀ set : List Command, (∀ c ∈ set.head?, ∃ op, c = .lbUpdate info.ovnLb.uuid op) →
        Prog.Keeps Nb.apply (· = nb) (refreshLbVips env info.ovnLb (present.set kv.1 kv.2)
          (info.action = .sync) >>= fun refresh => executeCommands (set ++ refresh)) fun _ =>
            True :=
      fun set hset => .bind (keeps_refreshLbVips _ _ _) fun refresh hr =>
        keeps_executeCommands_of_missing hnone (head?_append_lbUpdate hset hr)
    have hset : ∀ c ∈ (if !(decide (info.action = .sync) &&
        decide (row.externalIds.get? kv.1 = some kv.2)) then
          [Command.lbUpdate info.ovnLb.uuid (.setExternalIds (.single kv.1 kv.2))]
          else []).head?, ∃ op, c = .lbUpdate info.ovnLb.uuid op := by
      split
      · rintro c ⟨⟩
        exact ⟨_, rfl⟩
      · rintro _ ⟨⟩
    dsimp only
    split
    · exact .bind hcopies fun _ _ => hlast _ hset
    · exact hlast _ hset
  have hdisassociate : ∀ present, Prog.Keeps Nb.apply (· = nb)
      (OvnOctavia.disassociateFip env info present) fun _ => True := by
    intro present
    obtain ⟨ops, hops, -⟩ := fipTaken_floats info present
    rw [disassociateFip_eq, hops]
    refine .bind (.read (R := fun _ => True) fun _ _ => .pure trivial) fun lbhcs _ => ?_
    refine .bind (keeps_refreshLbVips _ _ _) fun refresh hr =>
      keeps_executeCommands_of_missing hnone
        (head?_append_lbUpdate (head?_append_lbUpdate ?_ ?_) hr)
    · cases ops with
      | nil => rintro _ ⟨⟩
      | cons op ops =>
          rintro c ⟨⟩
          exact ⟨op, rfl⟩
    · unfold dropCheckCommands
      split
      · rintro c ⟨⟩
        exact ⟨_, rfl⟩
      · rintro _ ⟨⟩
  have hall : Prog.Keeps Nb.apply (· = nb) (OvnOctavia.handleVipFip env info) fun _ => True := by
    refine .bind (.read (R := fun _ => True) fun _ _ => .pure trivial) fun row _ => ?_
    cases info.action with
    | associate => exact hassociate _
    | sync => exact hassociate _
    | disassociate => exact hdisassociate _
  simp only [handled_eq, handle, Prog.run_map]
  exact (hall nb rfl).1

end Missing

namespace Monitored

/-- The store while the monitor is there and the row of an event has the keys `e`. -/
def Beside (env : Env) (h : Str) (prev : List Str) (poolId : Str) (ds : List MemberData)
    (u : Nat) (first : HealthCheck) (v : Nat) (e : Dict Str Str) (nb : Nb) : Prop :=
  Monitored env h prev poolId ds u first nb ∧ ∃ row, nb.lb? v = some row ∧ row.externalIds = e

/-- The copies of health checks are on the row of those they copy. -/
theorem keeps_copies {lb : LoadBalancer} {fip : Str} {l : List HealthCheck}
    (hl : ∀ hc ∈ l, hc.externalIds.get? lbExtIdsHmKey = some h → lb.uuid = u) :
    Prog.Keeps Nb.apply (Beside env h prev poolId ds u first lb.uuid e)
      (Prog.each (fun hc => Prog.transaction [copyLbhc lb fip hc]) l) fun _ => True := by
  refine .each fun hc hin s hs => ⟨?_, fun _ _ => trivial⟩
  obtain ⟨hm, row, hrow, he⟩ := hs
  have hu := (Nb.lb?_eq_some hrow).2
  have hfound : s.lb? row.uuid = some row := hu ▸ hrow
  generalize hvip : (if checkLbhcVipFormat hc.vip then
    addressPort fip ((hc.vip.splitOn ':').getLastD []) else []) = vip
  have happly := (hm.sound.watched hrow).apply_hcCreate vip hc.options
    (hc.externalIds.set lbExtIdsHmVip fip)
  rw [hu] at happly
  simp only [Prog.run_transaction, Prog.transact_cons, Prog.transact_nil, copyLbhc, hvip, happly,
    Except.bind]
  refine ⟨hm.withCheck hfound _ _ _ fun hkey => hu.trans (hl hc hin ?_),
    { row with healthCheck := row.healthCheck ++ [s.nextUuid] }, ?_, he⟩
  · rwa [Dict.get?_set_of_ne _ _ (by decide)] at hkey
  · rw [Nb.lb?_withCheck hfound, if_pos hu.symm]

theorem executeFloats (hm : Monitored env h prev poolId ds u first nb) {v : Nat} {f : Str}
    {cs : List Command} (hrow : nb.lb? v = some row) (hip : (env.ipVersion f).isSome)
    (hcs : ∀ c ∈ cs, ∃ op, c = .lbUpdate v op ∧ op.Floats f row.externalIds) :
    Monitored env h prev poolId ds u first ((executeCommands cs).run Nb.apply nb).2 := by
  obtain ⟨ops, rfl, hops⟩ : ∃ ops : List LbOp, cs = ops.map (.lbUpdate v) ∧
      ∀ op ∈ ops, op.Floats f row.externalIds := by
    clear hm
    induction cs with
    | nil => exact ⟨[], rfl, nofun⟩
    | cons c cs ih =>
        obtain ⟨op, rfl, hop⟩ := hcs c (List.mem_cons_self ..)
        obtain ⟨ops, rfl, hops⟩ := ih fun d hd => hcs d (List.mem_cons_of_mem _ hd)
        exact ⟨op :: ops, rfl, List.forall_mem_cons.mpr ⟨hop, hops⟩⟩
  obtain rfl := (Nb.lb?_eq_some hrow).2
  rw [run_executeUpdates hm.sound.wellFormed hrow ops rfl]
  exact (hm.floats hrow hip hops).1

/-- A floating IP that is associated keeps the monitor. -/
theorem associateFip (hm : Monitored env h prev poolId ds u first nb)
    (hrow : nb.lb? info.ovnLb.uuid = some row) (hip : (env.ipVersion info.vipFip).isSome)
    (hcomma : ',' ∉ info.vipFip) : Monitored env h prev poolId ds u first
      ((OvnOctavia.associateFip env info row.externalIds).run Nb.apply nb).2 := by
  simp only [OvnOctavia.associateFip, Prog.run_bind, Prog.run_ofExcept]
  cases hok : associatedFip info row.externalIds with
  | error exc => exact hm
  | ok kv =>
      obtain ⟨key, value⟩ := kv
      obtain ⟨add, rfl, hpieces⟩ := mem_fipPieces_associated hok hcomma
      simp only [run_readLb, run_healthChecksOf hrow, live_of_lb? hrow]
      generalize hset : (if !(decide (info.action = .sync) &&
        decide (row.externalIds.get? (fipKey add) = some value)) then
          [Command.lbUpdate info.ovnLb.uuid (.setExternalIds (.single (fipKey add) value))]
          else []) = set
      generalize (!(decide (info.action = .sync) &&
        (nb.checksOf row).any fun hc => decide (getVipLbhc hc = info.vipFip))) = needed
      have hcopied : ∀ hc ∈ (nb.checksOf row).filter (getVipLbhc · ∈ info.vipRelated),
          hc.externalIds.get? lbExtIdsHmKey = some h → info.ovnLb.uuid = u := by
        intro hc hin hkey
        obtain ⟨x, hx, hget⟩ := List.mem_filterMap.mp (List.mem_of_mem_filter hin)
        obtain ⟨hin', rfl⟩ := Nb.hc?_eq_some hget
        exact hm.owned _ hc hin' hkey ((Nb.refers_iff hrow).mpr hx)
      -- the keys of the row are written last, and are then those of the start
      have hrest : ∀ s, Beside env h prev poolId ds u first info.ovnLb.uuid row.externalIds s →
          Monitored env h prev poolId ds u first ((refreshLbVips env info.ovnLb
            (row.externalIds.set (fipKey add) value) (decide (info.action = .sync)) >>=
              fun refresh => executeCommands (set ++ refresh)).run Nb.apply s).2 := by
        rintro s ⟨hm', row', hrow', he⟩
        rw [Prog.run_bind, run_refreshLbVips]
        cases frameVipIps env (info.ovnLb.live s).externalIds
            (row.externalIds.set (fipKey add) value) with
        | error exc => exact hm'
        | ok vips =>
            refine hm'.executeFloats hrow' hip ?_
            rw [← hset, he]
            refine List.forall_mem_append.mpr ⟨fun c hc => ?_, fun c hc => ?_⟩
            · split at hc
              · rw [List.mem_singleton.mp hc]
                exact ⟨_, rfl, .set add value hpieces⟩
              · cases hc
            · dsimp only at hc
              split at hc
              · cases hc
              · simp only [List.mem_cons, List.not_mem_nil, or_false] at hc
                rcases hc with rfl | rfl
                · exact ⟨_, rfl, .clear⟩
                · exact ⟨_, rfl, .traffic vips⟩
      have hstart : Beside env h prev poolId ds u first info.ovnLb.uuid row.externalIds nb :=
        ⟨hm, row, hrow, rfl⟩
      cases needed with
      | false => exact hrest nb hstart
      | true =>
          have hcopies : Beside env h prev poolId ds u first info.ovnLb.uuid row.externalIds
              ((Prog.each (fun hc => Prog.transaction [copyLbhc info.ovnLb info.vipFip hc])
                ((nb.checksOf row).filter (getVipLbhc · ∈ info.vipRelated))).run Nb.apply nb).2 :=
            (keeps_copies hcopied nb hstart).1
          simp only [if_true, Prog.run_bind]
          generalize (Prog.each _ _ : Nbctl Unit).run Nb.apply nb = out at hcopies ⊢
          obtain ⟨exc | _, s⟩ := out
          · exact hcopies.1
          · have := hrest s hcopies
            rwa [Prog.run_bind] at this

/-- A floating IP that is taken away keeps the monitor, if it is not the address of `first`. -/
theorem disassociateFip (hm : Monitored env h prev poolId ds u first nb)
    (hrow : nb.lb? info.ovnLb.uuid = some row) (hip : (env.ipVersion info.vipFip).isSome)
    (hne : getVipLbhc first ≠ info.vipFip) : Monitored env h prev poolId ds u first
      ((OvnOctavia.disassociateFip env info row.externalIds).run Nb.apply nb).2 := by
  have hu := (Nb.lb?_eq_some hrow).2
  obtain ⟨ops, hops, hfloats⟩ := fipTaken_floats info row.externalIds
  rw [disassociateFip_eq]
  simp only [Prog.run_bind, run_healthChecksOf hrow, run_refreshLbVips]
  cases frameVipIps env (info.ovnLb.live nb).externalIds (fipTaken info row.externalIds).1 with
  | error exc => exact hm
  | ok vips =>
      obtain ⟨hm', hchecks⟩ := hm.floats (hu ▸ hrow) hip hfloats
      have hleave := (hm.sound.watched hrow).run_leave hchecks vips
        ((nb.checksOf row).find? fun hc => getVipLbhc hc = info.vipFip)
      rw [hu, ← hops] at hleave
      have hmid : (ops.foldl LbOp.apply row).uuid = row.uuid := LbOp.uuid_foldl_apply ops row
      have hfound : nb.lb? (ops.foldl LbOp.apply row).uuid = some row := hmid ▸ hu ▸ hrow
      have hput := Nb.lb?_putLb (ops.foldl LbOp.apply row) hfound
      simp only [Except.map, Bool.false_and, Bool.false_eq_true, if_false]
      cases hfind : (nb.checksOf row).find? fun hc => getVipLbhc hc = info.vipFip with
      | none =>
          rw [hfind] at hleave
          have hmerge : (nb.putLb (ops.foldl LbOp.apply row)).putLb
              { ops.foldl LbOp.apply row with vips } = nb.putLb { ops.foldl LbOp.apply row with
                vips } := Nb.putLb_putLb rfl
          rw [hleave nofun, Nb.leave, ← hmerge]
          exact hm'.putLb hput rfl (fun _ hl => hl) rfl
      | some hc =>
          rw [hfind] at hleave
          obtain ⟨x, hx, hget⟩ := List.mem_filterMap.mp (List.mem_of_find?_eq_some hfind)
          obtain ⟨hin, rfl⟩ := Nb.hc?_eq_some hget
          have hvip : getVipLbhc hc = info.vipFip := by simpa using List.find?_some hfind
          rw [hleave (by rintro _ ⟨⟩; exact hget)]
          have hdrop := hm'.dropCheck hput (hchecks ▸ hx) fun he => hne ?_
          · exact hdrop.putLb ((hm'.sound.watched hput).dropCheck _).1.found rfl
              (fun _ hl => hl) rfl
          · have hsame := hm.sound.hc?_of_mem hm.there
            rw [← he, hget] at hsame
            exact Option.some.inj hsame ▸ hvip

/-- A request about a floating IP keeps the monitor. -/
theorem handleVipFip (hm : Monitored env h prev poolId ds u first nb)
    (hip : (env.ipVersion info.vipFip).isSome) (hcomma : ',' ∉ info.vipFip)
    (hne : getVipLbhc first ≠ info.vipFip) :
    Monitored env h prev poolId ds u first (handled env (.handleVipFip info) nb) := by
  cases hrow : nb.lb? info.ovnLb.uuid with
  | none =>
      rw [handled_fip_of_missing hrow]
      exact hm
  | some row =>
      simp only [handled_eq, handle, Prog.run_map, OvnOctavia.handleVipFip, Prog.run_bind,
        run_readLb, live_of_lb? hrow]
      cases info.action with
      | associate => exact hm.associateFip hrow hip hcomma
      | sync => exact hm.associateFip hrow hip hcomma
      | disassociate => exact hm.disassociateFip hrow hip hne

end Monitored

end Events

section Creation
variable {env : Env} {nb nb' : Nb} {row lb : LoadBalancer} {poolId key : Str} {info : HmInfo}
  {prev hms : List Str} {ds : List MemberData} {e : Dict Str Str}

/-- A row without the monitor `h`, in a store that does not know the id. -/
structure NewMonitor (env : Env) (nb : Nb) (row : LoadBalancer) (h : Str) : Prop where
  tended : Tended env nb row
  sound : nb.Sound
  isUuid : IsUuid h
  fresh : ∀ hc ∈ nb.healthChecks, hc.externalIds.get? lbExtIdsHmKey ≠ some h
  lists : ∀ lb ∈ nb.loadBalancers, ∀ t, lb.externalIds.get? lbExtIdsHmsKey = some t →
    ∃ l, t = Json.dumpsList l ∧ ∀ x ∈ l, IsUuid x ∧ x ≠ h
  vips : [] ∉ lbVips row.externalIds

/-- The health checks of the other monitors. -/
def OfOthers (h : Str) (hc : HealthCheck) : Prop := hc.externalIds.get? lbExtIdsHmKey ≠ some h

theorem NewMonitor.notListed {h : Str} (hn : NewMonitor env nb row h)
    (hprev : loadHms row.externalIds = .ok prev) : ∀ x ∈ prev, IsUuid x ∧ x ≠ h := by
  obtain ⟨hmem, -⟩ := Nb.lb?_eq_some hn.tended.watched.found
  rcases hget : row.externalIds.get? lbExtIdsHmsKey with _ | t
  · simp only [loadHms, hget] at hprev
    cases hprev
    exact List.forall_mem_nil _
  · obtain ⟨l, rfl, hl⟩ := hn.lists row hmem t hget
    rw [loadHms_of_get? hget] at hprev
    cases hprev
    exact hl

theorem run_addLbhc_ok (h : (addLbhc env lb key info).run Nb.apply nb = (.ok true, nb')) :
    ∃ cs, addLbhcCommands env (lb.live nb) key info = .ok cs ∧
      Prog.transact Nb.apply cs nb = .ok nb' := by
  simp only [addLbhc, Prog.run_bind, run_readLb] at h
  split at h
  · cases h
  · simp only [Prog.run_attempt, Prog.run_bind, Prog.run_ofExcept, Prog.run_pure] at h
    cases hcs : addLbhcCommands env (lb.live nb) key info with
    | error exc =>
        rw [hcs] at h
        cases h
    | ok cs =>
        simp only [hcs, Prog.run_transaction] at h
        cases ht : Prog.transact Nb.apply cs nb with
        | error exc =>
            rw [ht] at h
            cases h
        | ok s =>
            rw [ht] at h
            cases h
            exact ⟨cs, rfl, ht⟩

theorem getVipLbhc_of_get? {hc : HealthCheck} {a : Str}
    (h : hc.externalIds.get? lbExtIdsHmVip = some a) (ha : a ≠ []) : getVipLbhc hc = a := by
  obtain ⟨c, t, rfl⟩ := List.exists_cons_of_ne_nil ha
  simp only [getVipLbhc, h]

theorem get?_lbhcExternalIds (hmId poolKey vip : Str) :
    (lbhcExternalIds hmId poolKey vip).get? lbExtIdsHmKey = some hmId ∧
      (lbhcExternalIds hmId poolKey vip).get? lbExtIdsHmVip = some vip := by
  rw [lbhcExternalIds]
  refine ⟨?_, Dict.get?_set_self _ _ _⟩
  rw [Dict.get?_set_of_ne _ _ (by decide), Dict.get?_set_of_ne _ _ (by decide)]
  exact Dict.get?_set_self _ _ _

/-- A command of a new monitor after the first address. -/
def Command.AddsMonitor (u : Nat) (h : Str) (hms : List Str) (c : Command) : Prop :=
  (∃ vip options externalIds, c = .hcCreate u vip options externalIds ∧
      externalIds.get? lbExtIdsHmKey = some h) ∨
    c = .lbUpdate u (.setExternalIds (.single lbExtIdsHmsKey (Json.dumpsList (hms ++ [h]))))

theorem addLbhcCommands_first {cs : List Command} {a : Str} {l : List Str}
    (hvips : lbVips row.externalIds = a :: l) (hhms : loadHms row.externalIds = .ok hms)
    (hok : addLbhcCommands env row key info = .ok cs) :
    ∃ text rest, cs = .hcCreate row.uuid text (hmOptions info) (lbhcExternalIds info.id key a) ::
        setHms row (hms ++ [info.id]) :: rest ∧
      ∀ c ∈ rest, c.AddsMonitor row.uuid info.id hms := by
  simp only [addLbhcCommands, hhms, hvips, Except.ok_bind, List.mapM_cons] at hok
  obtain ⟨vipCommands, hvip, hok⟩ := Except.bind_eq_ok.mp hok
  obtain ⟨fipCommands, hfip, hok⟩ := Except.bind_eq_ok.mp hok
  obtain ⟨head, hhead, hvip⟩ := Except.bind_eq_ok.mp hvip
  obtain ⟨text, -, hhead⟩ := Except.bind_eq_ok.mp hhead
  obtain ⟨tail, htail, hvip⟩ := Except.bind_eq_ok.mp hvip
  cases hhead
  cases hvip
  cases hok
  refine ⟨text, tail.flatten ++ fipCommands, rfl, fun c hc => ?_⟩
  rcases List.mem_append.mp hc with hc | hc
  · obtain ⟨pair, hpair, hc⟩ := List.mem_flatten.mp hc
    obtain ⟨b, -, hb⟩ := Except.exists_of_mem_mapM htail hpair
    obtain ⟨text, -, hb⟩ := Except.bind_eq_ok.mp hb
    cases hb
    simp only [List.mem_cons, List.not_mem_nil, or_false] at hc
    rcases hc with rfl | rfl
    · exact .inl ⟨_, _, _, rfl, (get?_lbhcExternalIds _ _ _).1⟩
    · exact .inr rfl
  · obtain ⟨b, -, hb⟩ := Except.exists_of_mem_mapM hfip hc
    obtain ⟨text, -, hb⟩ := Except.bind_eq_ok.mp hb
    cases hb
    exact .inl ⟨_, _, _, rfl, (get?_lbhcExternalIds _ _ _).1⟩

/-- The first health check of a new monitor and its place in the list. -/
theorem monitored_first {h : Str} (hs : nb.Sound) (hrow : nb.lb? row.uuid = some row)
    (hfresh : ∀ hc ∈ nb.healthChecks, hc.externalIds.get? lbExtIdsHmKey ≠ some h)
    (halone : ∀ v lb, v ≠ row.uuid → nb.lb? v = some lb →
      ∀ t, lb.externalIds.get? lbExtIdsHmsKey = some t → Str.contains h t = false)
    (hr : Readable env row.externalIds)
    (hv : row.externalIds.get? (getPoolKey poolId true) = some (poolValue ds))
    (hfips : ∀ a ∈ lbhcFips row.externalIds, (env.ipVersion a).isSome)
    (prev : List Str) (text : Str) (options : Dict Str Str) {ids : Dict Str Str}
    (hids : ids.get? lbExtIdsHmKey = some h) :
    ∃ s, Prog.transact Nb.apply [.hcCreate row.uuid text options ids,
        setHms row (prev ++ [h])] nb = .ok s ∧
      Monitored env h prev poolId ds row.uuid ⟨nb.nextUuid, text, options, ids⟩ s ∧
      ∀ p, nb.Retains p s := by
  have happly := (hs.watched hrow).apply_hcCreate text options ids
  have hs₁ := hs.withCheck hrow text options ids
  have hget := Nb.lb?_withCheck hrow text options ids
  have hrow₁ := hget row.uuid
  rw [if_pos rfl] at hrow₁
  obtain ⟨row₂, hrow₂⟩ : ∃ row₂ : LoadBalancer, row₂ = { row with
      healthCheck := row.healthCheck ++ [nb.nextUuid]
      externalIds := row.externalIds.set lbExtIdsHmsKey (Json.dumpsList (prev ++ [h])) } := ⟨_, rfl⟩
  have hu : row₂.uuid = row.uuid := by rw [hrow₂]
  have hkeys : row₂.externalIds =
      row.externalIds.set lbExtIdsHmsKey (Json.dumpsList (prev ++ [h])) := by rw [hrow₂]
  have hput : (nb.withCheck row text options ids).lb? row₂.uuid =
      some { row with healthCheck := row.healthCheck ++ [nb.nextUuid] } := hu ▸ hrow₁
  have hchecks : row₂.healthCheck = row.healthCheck ++ [nb.nextUuid] := by rw [hrow₂]
  have hsame : SameKeys row.externalIds row₂.externalIds := hkeys ▸ .set _ _ (by decide)
  refine ⟨(nb.withCheck row text options ids).putLb row₂, ?_, ⟨hs₁.putLb hput hchecks,
    ⟨row₂, hu ▸ Nb.lb?_putLb row₂ hput, hr.of_sameKeys hsame, ?_, ?_, ?_⟩, hids,
    List.mem_append_right _ (List.mem_singleton_self _), fun v hc hin hkey href => ?_,
    fun v lb hne hlb => ?_⟩, fun p => ?_⟩
  · have hset : Nb.apply (setHms row (prev ++ [h])) (nb.withCheck row text options ids) =
        .ok ((nb.withCheck row text options ids).putLb row₂) := by
      rw [setHms, Nb.apply_lbUpdate hrow₁, Nb.updateLb_eq_putLb hs₁.wellFormed hrow₁ (by rfl)]
      simp only [LbOp.apply, Dict.update_single, hrow₂]
    simp only [Prog.transact_cons, happly, Except.bind, hset, Prog.transact_nil]
  · rw [hkeys, Dict.get?_set_self]
  · have hne : getPoolKey poolId true ≠ lbExtIdsHmsKey := fun he =>
      poolKey_notMem_base poolId true (by rw [he]; decide)
    rw [hkeys, Dict.get?_set_of_ne _ _ hne]
    exact hv
  · rw [hkeys, lbhcFips_congr fun k hk => Dict.get?_set_of_ne _ _ (by revert k; decide)]
    exact hfips
  · -- the only health check of the monitor is the new one
    rw [Nb.refers_putLb hput hchecks, Nb.refers_withCheck hrow] at href
    rcases List.mem_append.mp hin with hin | hin
    · exact absurd hkey (hfresh hc hin)
    · rw [List.mem_singleton.mp hin] at href
      rcases href with href | ⟨rfl, -⟩
      · exact absurd (hs.refers_lt href) (Nat.lt_irrefl _)
      · rfl
  · rw [Nb.lb?_putLb_of_ne _ (hu.symm ▸ hne), hget, if_neg hne] at hlb
    exact halone v lb hne hlb
  · exact ((Nb.Retains.refl p nb).withCheck hrow text options ids).putLb hput hchecks

theorem Monitored.addsMonitor {h : Str} {u : Nat} {first : HealthCheck} {c : Command}
    (hm : Monitored env h prev poolId ds u first nb) (hc : c.AddsMonitor u h prev)
    (hok : Nb.apply c nb = .ok nb') :
    Monitored env h prev poolId ds u first nb' ∧ ∀ p, nb.Retains p nb' := by
  obtain ⟨row, hrow, hl⟩ := hm.row
  obtain rfl := (Nb.lb?_eq_some hrow).2
  rcases hc with ⟨vip, options, ids, rfl, hids⟩ | rfl
  · rw [(hm.sound.watched hrow).apply_hcCreate] at hok
    cases hok
    exact ⟨hm.withCheck hrow vip options ids fun _ => rfl,
      fun p => (Nb.Retains.refl p nb).withCheck hrow vip options ids⟩
  · -- the list is written as it is
    have hself : LbOp.apply row (.setExternalIds
        (.single lbExtIdsHmsKey (Json.dumpsList (prev ++ [h])))) = row := by
      simp only [LbOp.apply, Dict.update_single, Dict.set_of_get? hl.hms]
    rw [Nb.apply_lbUpdate hrow, Nb.updateLb_eq_putLb hm.sound.wellFormed hrow (by rw [hself]),
      hself, Nb.putLb_self hm.sound.wellFormed hrow] at hok
    cases hok
    exact ⟨hm, fun p => .refl p nb⟩

/-- The creation of a monitor: its health checks are on the row of its pool, and those of
other monitors stay. -/
theorem NewMonitor.created (hn : NewMonitor env nb row info.id)
    (hv : row.externalIds.get? (getPoolKey info.poolId true) = some (poolValue ds))
    (hds : ∀ d ∈ ds, d.WellFormed env) (hprev : loadHms row.externalIds = .ok prev) :
    ∃ first, getVipLbhc first ∈ lbVips row.externalIds ∧
      Monitored env info.id prev info.poolId ds row.uuid first
        ((hmCreateOn env info (getPoolKey info.poolId true) row).run Nb.apply nb).2 ∧
      ∀ p, nb.Retains p
        ((hmCreateOn env info (getPoolKey info.poolId true) row).run Nb.apply nb).2 := by
  obtain ⟨nb₂, row₂, e₁, e₃, maps, ids, hst⟩ := hmCreateOn_stages (S := fun _ => False)
    hn.tended hv hds (.inr fun _ _ _ _ hf => hf.elim)
  obtain ⟨row₁, hrow₁⟩ : ∃ row₁ : LoadBalancer, row₁ = { row with externalIds := e₁ } := ⟨_, rfl⟩
  have hu₁ : row₁.uuid = row.uuid := by rw [hrow₁]
  have hkeys₁ : row₁.externalIds = e₁ := by rw [hrow₁]
  have hput : nb.lb? row₁.uuid = some row := hu₁ ▸ hn.tended.watched.found
  have hfound := Nb.lb?_putLb row₁ hput
  have hchecks₁ : row₁.healthCheck = row.healthCheck := by rw [hrow₁]
  obtain ⟨hhms, hvips, hfips⟩ := hst.restated.addresses
  obtain ⟨a, l, hal⟩ := List.exists_cons_of_ne_nil hn.tended.vip
  have ha : a ∈ lbVips row.externalIds := hal ▸ List.mem_cons_self ..
  -- the transaction of the new health checks
  have hadding := hst.adding
  rw [← hrow₁] at hadding
  obtain ⟨cs, hcs, ht⟩ := run_addLbhc_ok hadding
  rw [live_of_lb? (hu₁ ▸ hfound)] at hcs
  obtain ⟨text, rest, rfl, hrest⟩ := addLbhcCommands_first (hkeys₁ ▸ hvips ▸ hal)
    (hkeys₁ ▸ hhms.trans hprev) hcs
  obtain ⟨hmark, hvip⟩ := get?_lbhcExternalIds info.id (getPoolKey info.poolId true) a
  have halone : ∀ v lb, v ≠ row₁.uuid → (nb.putLb row₁).lb? v = some lb →
      ∀ t, lb.externalIds.get? lbExtIdsHmsKey = some t → Str.contains info.id t = false := by
    intro v lb hne hlb t htext
    rw [Nb.lb?_putLb_of_ne _ hne] at hlb
    obtain ⟨hmem, -⟩ := Nb.lb?_eq_some hlb
    obtain ⟨l, rfl, hl⟩ := hn.lists lb hmem t htext
    rw [Bool.eq_false_iff, ne_eq, hn.isUuid.contains_dumpsList_iff fun x hx => (hl x hx).1]
    exact fun hx => (hl _ hx).2 rfl
  obtain ⟨s₁, hs₁, hm₁, hr₁⟩ := monitored_first (hn.sound.putLb hput hchecks₁) hfound hn.fresh
    halone (hkeys₁ ▸ hst.restated.readable)
    (hkeys₁ ▸ (hst.restated.pool info.poolId true).trans hv) (hkeys₁ ▸ hfips ▸ hn.tended.fips)
    prev text (hmOptions info) hmark
  have hrest' : Prog.transact Nb.apply rest s₁ = .ok nb₂ := by
    have happend := Prog.transact_append Nb.apply
      [.hcCreate row₁.uuid text (hmOptions info)
        (lbhcExternalIds info.id (getPoolKey info.poolId true) a),
        setHms row₁ (prev ++ [info.id])] rest (nb.putLb row₁)
    rw [hs₁] at happend
    exact happend.symm.trans ht
  generalize hfirst : (⟨(nb.putLb row₁).nextUuid, text, hmOptions info,
    lbhcExternalIds info.id (getPoolKey info.poolId true) a⟩ : HealthCheck) = first at hm₁
  obtain ⟨hm₂, hr₂⟩ := Prog.Uses.transact_keeps
    (I := fun s => Monitored env info.id prev info.poolId ds row₁.uuid first s ∧
      ∀ p, nb.Retains p s)
    (fun c s s' hc hs hok => by
      obtain ⟨hm', hr'⟩ := hs.1.addsMonitor hc hok
      exact ⟨hm', fun p => (hs.2 p).trans (hr' p)⟩)
    hrest ⟨hm₁, fun p => ((Nb.Retains.refl p nb).putLb hput hchecks₁).trans (hr₁ p)⟩ hrest'
  have hu₂ : row₂.uuid = row₁.uuid := hst.added.uuid.trans hu₁.symm
  have hfound₂ := hst.tended.watched.found
  have hlast : nb₂.lb? { row₂ with externalIds := e₃, ipPortMappings := maps }.uuid =
    some row₂ := hfound₂
  refine ⟨first, ?_, ?_, fun p => ?_⟩
  · rw [← hfirst, getVipLbhc_of_get? hvip fun he => hn.vips (he ▸ ha)]
    exact ha
  · rw [hst.left, ← hu₁]
    exact (hm₂.putLb hlast rfl (fun _ hl => hl.restated hst.mapped)
      (hst.mapped.get? _ (by decide))).deletedPorts ids
  · rw [hst.left]
    exact (hr₂ p).putLb hlast rfl

end Creation

section Deletion
variable {env : Env} {nb nb' : Nb} {row : LoadBalancer} {h poolId : Str} {info : HmInfo}
  {prev : List Str} {ds : List MemberData} {u : Nat} {first : HealthCheck}

/-- No health check is of the monitor, and no row refers to one that was. -/
def Nb.Forgets (nb : Nb) (h : Str) : Prop :=
  (∀ hc ∈ nb.healthChecks, hc.externalIds.get? lbExtIdsHmKey ≠ some h) ∧
    ∀ lb ∈ nb.loadBalancers, ∀ x ∈ lb.healthCheck, ∃ hc, nb.hc? x = some hc ∧
      hc.externalIds.get? lbExtIdsHmKey ≠ some h

theorem Nb.Sound.forgets (hs : nb.Sound)
    (hnone : ∀ hc ∈ nb.healthChecks, hc.externalIds.get? lbExtIdsHmKey ≠ some h) :
    nb.Forgets h := by
  refine ⟨hnone, fun lb hlb x hx => ?_⟩
  have hrow := hs.wellFormed.lb?_of_mem hlb
  obtain ⟨hc, hhc⟩ := hs.present _ x ((Nb.refers_iff hrow).mpr hx)
  exact ⟨hc, hhc, hnone hc (Nb.hc?_eq_some hhc).1⟩

theorem Monitored.findOvnLbOfHm (hm : Monitored env h prev poolId ds u first nb) (hu : IsUuid h)
    (hprev : ∀ x ∈ prev, IsUuid x) (hrow : nb.lb? u = some row) :
    OvnOctavia.findOvnLbOfHm nb h = some row := by
  obtain ⟨row', hrow', hl⟩ := hm.row
  rw [hrow] at hrow'
  cases hrow'
  obtain ⟨hmem, rfl⟩ := Nb.lb?_eq_some hrow
  have hcontains : Str.contains h (Json.dumpsList (prev ++ [h])) = true := by
    rw [hu.contains_dumpsList_iff]
    · simp
    · exact List.forall_mem_append.mpr ⟨hprev, List.forall_mem_singleton.mpr hu⟩
  have hsome : (OvnOctavia.findOvnLbOfHm nb h).isSome := by
    refine List.find?_isSome.mpr ⟨row, hmem, ?_⟩
    rw [hl.hms]
    exact hcontains
  obtain ⟨lb, hlb⟩ := Option.isSome_iff_exists.mp hsome
  rw [hlb]
  have hmem' := List.mem_of_find?_eq_some hlb
  have htext := List.find?_some hlb
  by_cases hne : lb.uuid = row.uuid
  · rw [hm.sound.wellFormed.eq_of_uuid hmem' hmem hne]
  · cases hget : lb.externalIds.get? lbExtIdsHmsKey with
    | none => simp [hget] at htext
    | some t =>
        have hfalse := hm.alone lb.uuid lb hne (hm.sound.wellFormed.lb?_of_mem hmem') t hget
        simp [hget, hfalse] at htext

theorem dropsMonitor_eq (hs : nb.Sound) (hrow : nb.lb? row.uuid = some row) (hms : List Str)
    {l : List HealthCheck} (hl : ∀ hc ∈ l, hc ∈ nb.healthChecks)
    (hn : (l.map HealthCheck.uuid).Nodup) :
    (executeCommands (l.flatMap (fun hc =>
          [.lbUpdate row.uuid (.removeHealthCheck hc.uuid), .hcDestroy hc.uuid]) ++
        [if hms = [] then .lbUpdate row.uuid (.removeExternalId lbExtIdsHmsKey)
          else setHms row hms])).run Nb.apply nb =
      (.ok (), (nb.dropChecks row (l.map HealthCheck.uuid)).putLb { row with
        healthCheck := row.healthCheck.filter (· ∉ l.map HealthCheck.uuid)
        externalIds := if hms = [] then row.externalIds.erase lbExtIdsHmsKey
          else row.externalIds.set lbExtIdsHmsKey (Json.dumpsList hms) }) := by
  have hw := hs.watched hrow
  have hfirst := hw.transact_dropChecks_eq (fun hc hm => ⟨hc, hs.hc?_of_mem (hl hc hm)⟩) hn
  have hput := hs.wellFormed.putLb { row with
    healthCheck := row.healthCheck.filter (· ∉ l.map HealthCheck.uuid) }
  have hfound := Nb.lb?_dropChecks hrow (l.map HealthCheck.uuid) row.uuid
  rw [if_pos rfl] at hfound
  have hwell : (nb.dropChecks row (l.map HealthCheck.uuid)).WellFormed := ⟨hput.nodup, hput.lt_next⟩
  have hlast := fun op : LbOp => Nb.transact_row hwell hfound [op] rfl
  refine run_executeCommands_ok ?_
  rw [Prog.transact_append, hfirst]
  change Prog.transact Nb.apply _ (nb.dropChecks row (l.map HealthCheck.uuid)) = _
  by_cases hnil : hms = []
  · simp only [if_pos hnil]
    have hop := hlast (.removeExternalId lbExtIdsHmsKey)
    simp only [List.map_cons, List.map_nil] at hop
    rw [hop]
    rfl
  · simp only [if_neg hnil]
    have hop := hlast (.setExternalIds (.single lbExtIdsHmsKey (Json.dumpsList hms)))
    simp only [List.map_cons, List.map_nil, List.foldl_cons, List.foldl_nil, LbOp.apply,
      Dict.update_single] at hop
    rw [setHms, hop]

/-- The deletion of the monitor leaves nothing of it. -/
theorem Monitored.hmDelete (hm : Monitored env h prev poolId ds u first nb) (hid : info.id = h)
    (hpool : info.poolId = poolId) (hu : IsUuid h) (hds : ∀ d ∈ ds, d.WellFormed env)
    (hprev : ∀ x ∈ prev, IsUuid x ∧ x ≠ h) :
    (handled env (.hmDelete info) nb).Forgets h ∧
      nb.Retains (OfOthers h) (handled env (.hmDelete info) nb) ∧
      ∃ row, (handled env (.hmDelete info) nb).lb? u = some row ∧
        row.externalIds.get? lbExtIdsHmsKey =
          if prev = [] then none else some (Json.dumpsList prev) := by
  subst hid hpool
  obtain ⟨row, hrow, hl⟩ := hm.row
  obtain rfl := (Nb.lb?_eq_some hrow).2
  have hfind := hm.findOvnLbOfHm hu (fun x hx => (hprev x hx).1) hrow
  have hlookup : lookupLbhcsByHmId nb info.id ≠ [] :=
    List.ne_nil_of_mem (List.mem_filter.mpr ⟨hm.there, decide_eq_true hm.mark⟩)
  have hstart : handled env (.hmDelete info) nb =
      ((hmDeleteOn env info (lookupLbhcsByHmId nb info.id) row).run Nb.apply nb).2 := by
    have hread : (findOvnLbFromHmId info.id).run Nb.apply nb =
        (.ok (lookupLbhcsByHmId nb info.id, some row), nb) := by
      rw [← hfind]
      rfl
    rw [handled_eq, handle, run_map_some, OvnOctavia.hmDelete]
    simp only [Prog.run_bind, hread]
    obtain ⟨hc, l, hcons⟩ := List.exists_cons_of_ne_nil hlookup
    rw [hcons]
  obtain ⟨e, maps, hst⟩ := hmDeleteOn_stages (hm.sound.watched hrow) hl.readable
    (loadHms_of_get? hl.hms) hl.pool hds
  have herase : (prev ++ [info.id]).erase info.id = prev := by
    rw [List.erase_append_right _ fun hx => (hprev _ hx).2 rfl]
    simp
  obtain ⟨row₂, hrow₂⟩ : ∃ row₂ : LoadBalancer, row₂ = { row with
    externalIds := e, ipPortMappings := maps } := ⟨_, rfl⟩
  have hu₂ : row₂.uuid = row.uuid := by rw [hrow₂]
  have hput : nb.lb? row₂.uuid = some row := hu₂ ▸ hrow
  have hchecks : row₂.healthCheck = row.healthCheck := by rw [hrow₂]
  have hs₂ := hm.sound.putLb hput hchecks
  have hfound₂ := Nb.lb?_putLb row₂ hput
  have hin : ∀ hc ∈ lookupLbhcsByHmId nb info.id, hc ∈ (nb.putLb row₂).healthChecks ∧
      hc.externalIds.get? lbExtIdsHmKey = some info.id := fun hc hc' =>
    ⟨List.mem_of_mem_filter hc', of_decide_eq_true (List.mem_filter.mp hc').2⟩
  have hdrop := dropsMonitor_eq hs₂ hfound₂ prev (fun hc hc' => (hin hc hc').1)
    (hs₂.table.sublist (List.filter_sublist.map _))
  have hset : setHms row prev = setHms row₂ prev := by rw [setHms, setHms, hu₂]
  have hlast := hst.left
  rw [← hrow₂, ← hu₂, herase, hset] at hlast
  obtain ⟨ids, hend⟩ := hlast _ hdrop
  generalize hus : (lookupLbhcsByHmId nb info.id).map HealthCheck.uuid = us at hend
  have hmem : ∀ x ∈ us, ∃ hc ∈ (nb.putLb row₂).healthChecks,
      hc.externalIds.get? lbExtIdsHmKey = some info.id ∧ hc.uuid = x := by
    intro x hx
    rw [← hus] at hx
    obtain ⟨hc, hc', rfl⟩ := List.mem_map.mp hx
    exact ⟨hc, (hin hc hc').1, (hin hc hc').2, rfl⟩
  have hown : ∀ v, ∀ x ∈ us, (nb.putLb row₂).Refers v x → v = row₂.uuid := by
    intro v x hx hr
    obtain ⟨hc, hc', hkey, rfl⟩ := hmem x hx
    rw [Nb.refers_putLb hput hchecks] at hr
    exact (hm.owned v hc hc' hkey hr).trans hu₂.symm
  have hs₃ := hs₂.dropChecks hfound₂ hown
  have hfound₃ := Nb.lb?_dropChecks hfound₂ us row₂.uuid
  rw [if_pos rfl] at hfound₃
  obtain ⟨row₃, hrow₃⟩ : ∃ row₃ : LoadBalancer, row₃ = { row₂ with
    healthCheck := row₂.healthCheck.filter (· ∉ us)
    externalIds := if prev = [] then row₂.externalIds.erase lbExtIdsHmsKey
      else row₂.externalIds.set lbExtIdsHmsKey (Json.dumpsList prev) } := ⟨_, rfl⟩
  have hu₃ : row₃.uuid = row₂.uuid := by rw [hrow₃]
  have hchecks₃ : row₃.healthCheck = row₂.healthCheck.filter (· ∉ us) := by rw [hrow₃]
  have hkeys₃ : row₃.externalIds = if prev = [] then row₂.externalIds.erase lbExtIdsHmsKey
      else row₂.externalIds.set lbExtIdsHmsKey (Json.dumpsList prev) := by rw [hrow₃]
  rw [← hu₃] at hfound₃
  rw [hstart, hend, ← hrow₃]
  refine ⟨((hs₃.putLb hfound₃ hchecks₃).deletedPorts ids).forgets fun hc hc' hkey => ?_, ?_,
    row₃, hu₂ ▸ hu₃ ▸ Nb.lb?_putLb row₃ hfound₃, ?_⟩
  · obtain ⟨hc', hnot⟩ := List.mem_filter.mp hc'
    have hlook : hc ∈ lookupLbhcsByHmId nb info.id :=
      List.mem_filter.mpr ⟨hc', decide_eq_true hkey⟩
    rw [← hus] at hnot
    exact of_decide_eq_true hnot (List.mem_map_of_mem hlook)
  · refine (((Nb.Retains.refl _ nb).putLb hput hchecks).dropChecks hfound₂
      fun hc hc' hother hx => ?_).putLb hfound₃ hchecks₃
    obtain ⟨other, hother', hkey, he⟩ := hmem _ hx
    have hsame := hs₂.hc?_of_mem hother'
    rw [he, hs₂.hc?_of_mem hc'] at hsame
    exact hother (Option.some.inj hsame ▸ hkey)
  · rw [hkeys₃]
    split
    · exact Dict.get?_erase_self _ _
    · exact Dict.get?_set_self _ _ _

end Deletion

section Undoing
variable {env : Env} {nb : Nb} {row : LoadBalancer} {info deletion : HmInfo} {prev : List Str}
  {fips : List FipInfo}

/-- A request about a floating IP: one address, which is none of the given ones. -/
structure FipInfo.Apart (env : Env) (vips : List Str) (info : FipInfo) : Prop where
  version : (env.ipVersion info.vipFip).isSome
  comma : ',' ∉ info.vipFip
  notVip : info.vipFip ∉ vips

/-- The store after requests about floating IPs. -/
def afterFips (env : Env) (fips : List FipInfo) (nb : Nb) : Nb :=
  fips.foldl (fun nb info => handled env (.handleVipFip info) nb) nb

theorem Monitored.afterFips {h poolId : Str} {ds : List MemberData} {u : Nat}
    {first : HealthCheck} {vips : List Str} (hm : Monitored env h prev poolId ds u first nb)
    (hfirst : getVipLbhc first ∈ vips) (hfips : ∀ f ∈ fips, f.Apart env vips) :
    Monitored env h prev poolId ds u first (afterFips env fips nb) := by
  induction fips generalizing nb with
  | nil => exact hm
  | cons f fips ih =>
      have hf := hfips f (List.mem_cons_self ..)
      refine ih (hm.handleVipFip hf.version hf.comma fun he => hf.notVip (he ▸ hfirst))
        fun g hg => hfips g (List.mem_cons_of_mem _ hg)

/-- A monitor that is deleted after floating IPs have come and gone leaves nothing of itself,
and neither its creation nor its deletion touches the health checks of others. -/
theorem hmDelete_undoes_hmCreate (hn : NewMonitor env nb row info.id) (hpool : IsUuid info.poolId)
    (hfound : nb.poolRow info.poolId = (getPoolKey info.poolId true, some row))
    (hprev : loadHms row.externalIds = .ok prev)
    (hfips : ∀ f ∈ fips, f.Apart env (lbVips row.externalIds))
    (hid : deletion.id = info.id) (hdeleted : deletion.poolId = info.poolId) :
    let created := handled env (.hmCreate info) nb
    let changed := afterFips env fips created
    let deleted := handled env (.hmDelete deletion) changed
    deleted.Forgets info.id ∧
      (∃ row', deleted.lb? row.uuid = some row' ∧ row'.externalIds.get? lbExtIdsHmsKey =
        if prev = [] then none else some (Json.dumpsList prev)) ∧
      nb.Retains (OfOthers info.id) created ∧ changed.Retains (OfOthers info.id) deleted := by
  intro created changed deleted
  obtain ⟨-, hkey, -⟩ := Nb.poolRow_eq_some hfound
  obtain ⟨value, hv⟩ := get?_of_mem_keys hkey
  obtain ⟨ds, rfl, hds⟩ := hn.tended.readable.pool _ _ _ hpool hv
  have hcreated : created =
      ((hmCreateOn env info (getPoolKey info.poolId true) row).run Nb.apply nb).2 := by
    simp only [created, handled_eq, handle, run_map_some, hmCreate, Prog.run_bind,
      run_findOvnLbByPoolId, hfound, run_readLb, live_of_lb? hn.tended.watched.found,
      (Dict.contains_iff _ _).mpr hkey, if_true]
  obtain ⟨first, hfirst, hm, hkept⟩ := hn.created hv hds hprev
  rw [← hcreated] at hm hkept
  obtain ⟨hforgets, hretains, hrow⟩ := (hm.afterFips hfirst hfips).hmDelete hid hdeleted
    hn.isUuid hds (hn.notListed hprev)
  exact ⟨hforgets, hrow, hkept _, hretains⟩

section Example

/-- A load balancer that serves one member, with the health check of another monitor. -/
def exampleListedRow : LoadBalancer :=
  { uuid := 2, name := exampleId 'a', protocol := some .tcp, vips := ∅
    externalIds := exampleServingKeys.set lbExtIdsHmsKey (Json.dumpsList [exampleId 'd'])
    options := ∅, selectionFields := [], healthCheck := [3], ipPortMappings := ∅ }

def exampleListedNb : Nb := { exampleNb with
  loadBalancers := [exampleListedRow]
  healthChecks := [⟨3, "10.0.0.2:80".toList, ∅, lbhcExternalIds (exampleId 'd')
    (getPoolKey (exampleId 'c') true) "10.0.0.2".toList⟩]
  nextUuid := 4 }

def exampleNewMonitor : HmInfo :=
  { id := exampleId 'e', poolId := exampleId 'c', interval := some 5, timeout := some 3
    successCount := some 1, failureCount := some 1, adminStateUp := true }

/-- Requests about a floating IP of the address of the load balancer. -/
def exampleFipEvents : List FipInfo :=
  [.associate, .disassociate, .associate].map fun action =>
    { ovnLb := exampleListedRow, vipFip := "172.24.4.9".toList
      vipRelated := ["10.0.0.2".toList], additionalVipFip := false, action }

theorem refers_exampleListedNb {v x : Nat} (h : exampleListedNb.Refers v x) : v = 2 ∧ x = 3 := by
  obtain ⟨row, hrow, hx⟩ := h
  obtain ⟨hm, rfl⟩ := Nb.lb?_eq_some hrow
  rw [List.mem_singleton.mp hm] at hx ⊢
  exact ⟨rfl, List.mem_singleton.mp hx⟩

theorem newMonitor_example :
    NewMonitor exampleEnv exampleListedNb exampleListedRow exampleNewMonitor.id := by
  have hsound : exampleListedNb.Sound := by
    refine ⟨⟨by decide, by decide⟩, fun v row hrow => ?_, by decide, fun v x hr => ?_, by decide,
      fun v w x hv hw => ?_⟩
    · obtain ⟨hm, -⟩ := Nb.lb?_eq_some hrow
      rw [List.mem_singleton.mp hm]
      exact List.nodup_singleton 3
    · obtain ⟨-, rfl⟩ := refers_exampleListedNb hr
      exact ⟨_, rfl⟩
    · exact (refers_exampleListedNb hv).1.trans (refers_exampleListedNb hw).1.symm
  refine ⟨⟨hsound.watched (v := 2) (by decide +kernel), by decide, ?_, ⟨_, loadHms_setHms _ _⟩,
    by decide +kernel, by decide +kernel⟩, hsound, isUuid_exampleId (by decide),
    by decide +kernel, fun lb hlb t ht => ?_, by decide +kernel⟩
  · exact readable_exampleServingKeys.of_sameKeys (.set _ _ (by decide))
  · rw [List.mem_singleton.mp hlb, exampleListedRow, Dict.get?_set_self] at ht
    cases ht
    refine ⟨_, rfl, List.forall_mem_singleton.mpr ⟨isUuid_exampleId (by decide), by decide⟩⟩

theorem hmDelete_undoes_hmCreate_example :
    let created := handled exampleEnv (.hmCreate exampleNewMonitor) exampleListedNb
    let changed := afterFips exampleEnv exampleFipEvents created
    let deleted := handled exampleEnv (.hmDelete exampleNewMonitor) changed
    deleted.Forgets exampleNewMonitor.id ∧
      (∃ row', deleted.lb? exampleListedRow.uuid = some row' ∧
        row'.externalIds.get? lbExtIdsHmsKey =
          if [exampleId 'd'] = [] then none else some (Json.dumpsList [exampleId 'd'])) ∧
      exampleListedNb.Retains (OfOthers exampleNewMonitor.id) created ∧
      changed.Retains (OfOthers exampleNewMonitor.id) deleted :=
  hmDelete_undoes_hmCreate newMonitor_example (isUuid_exampleId (by decide)) (by decide +kernel)
    (loadHms_setHms _ _)
    (fun f hf => by
      simp only [exampleFipEvents, List.map_cons, List.map_nil, List.mem_cons, List.not_mem_nil,
        or_false] at hf
      rcases hf with rfl | rfl | rfl <;> exact ⟨by decide, by decide, by decide +kernel⟩)
    rfl rfl

end Example

end Undoing

end OvnOctavia
