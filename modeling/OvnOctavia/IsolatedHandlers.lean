import OvnOctavia.Isolation
import OvnOctavia.Table

/-!
The handlers of the requests of a load balancer work on what it owns: every row
they find by its name, by the key of its pools or by its monitors is its own.
-/

namespace OvnOctavia

section Programs
variable {lbId : Str} {protocol : Option Protocol} {nb : Nb} {K : Str → Prop}

/-- The program leaves the others alone, and what it returns satisfies `R`. -/
abbrev Isolates (lbId : Str) (protocol : Option Protocol) (nb : Nb) (K : Str → Prop) {α : Type}
    (p : Nbctl α) (R : α → Prop) : Prop :=
  p.Keeps Nb.apply (Isolated lbId protocol nb K) R

variable {α : Type} {p : Nbctl α} {lb : LoadBalancer} {u : Nat}

theorem isolates_of_uses (h : p.Uses (Command.Within lbId protocol nb K)) :
    Isolates lbId protocol nb K p fun _ => True :=
  .of_uses h fun _ _ _ hc hs ha => hc.isolated hs ha

theorem within_of_peripheral (hu : OwnsRow lbId protocol nb u) (hb : ∀ k ∈ baseKeys, K k)
    {c : Command} (hc : c.IsPeripheral ∧ c.Targets u) : c.Within lbId protocol nb K := by
  have hsub : ∀ k ∈ peripheralKeys, k ∈ baseKeys := by decide
  obtain ⟨hp, ht⟩ := hc
  cases c with
  | lbCreate | lbDel | hcCreate => exact hp.elim
  | hcUpdate | hcDestroy => exact ht.elim
  | lbUpdate v op =>
      cases ht
      refine ⟨hu, ?_⟩
      cases op with
      | setExternalIds kv =>
          obtain ⟨k, hk, v, rfl⟩ := hp
          intro j hj
          rcases (Dict.mem_keys_set Dict.empty k j v).mp hj with rfl | hj
          · exact hb j (hsub j hk)
          · cases hj
      | setProtocol | addHealthCheck => exact hp.elim
      | _ => trivial
  | lsLbAdd | lsLbDel | lrLbAdd | lrLbDel =>
      cases ht
      exact hu
  | _ => trivial

theorem isolates_peripheral (hu : OwnsRow lbId protocol nb u) (hb : ∀ k ∈ baseKeys, K k)
    (hp : PeripheralOn u p) : Isolates lbId protocol nb K p fun _ => True :=
  isolates_of_uses (hp.mono fun _ hc => within_of_peripheral hu hb hc)

theorem ownsRow_next (hw : nb.WellFormed) : OwnsRow lbId protocol nb nb.nextUuid :=
  fun row ho he => Nat.lt_irrefl _ (he ▸ hw.lt_next row ho.1)

theorem isolates_executeCommands {cs : List Command}
    (h : ∀ c ∈ cs, c.Within lbId protocol nb K) :
    Isolates lbId protocol nb K (executeCommands cs) fun _ => True :=
  isolates_of_uses (uses_executeCommands h)

section Reading

theorem isolates_readLb (ho : Owned lbId protocol nb K lb) :
    Isolates lbId protocol nb K (readLb lb) fun row =>
      Owned lbId protocol nb K row ∧ row.uuid = lb.uuid := by
  refine .read fun s hs => .pure ⟨?_, lb.uuid_live s⟩
  unfold LoadBalancer.live
  cases hrow : s.lb? lb.uuid with
  | none => exact ho
  | some row =>
      obtain ⟨hm, hu⟩ := Nb.lb?_eq_some hrow
      exact hs.owned row hm (hs.not_other ho.uuid hm hu)

theorem isolates_healthChecksOf (ho : Owned lbId protocol nb K lb) :
    Isolates lbId protocol nb K (healthChecksOf lb) fun hcs =>
      ∀ hc ∈ hcs, OwnsCheck lbId protocol nb hc.uuid := by
  refine .read fun s hs => .pure fun hc hm => ?_
  obtain ⟨v, hv, hget⟩ := List.mem_filterMap.mp hm
  have hrow : Owned lbId protocol nb K (lb.live s) :=
    ((isolates_readLb ho s hs).2 (lb.live s) rfl).1
  have hu : hc.uuid = v := by simpa using List.find?_some hget
  rw [hu]
  exact hrow.checks v hv

theorem isolates_findOvnLbs : Isolates lbId protocol nb K (findOvnLbs lbId) fun lbs =>
    ∀ lb ∈ lbs, lb.name = lbId ∧
      (isOther lbId protocol lb = false → Owned lbId protocol nb K lb) := by
  refine .read fun s hs => ?_
  have hrows : ∀ lb ∈ s.lbsNamed lbId, lb.name = lbId ∧
      (isOther lbId protocol lb = false → Owned lbId protocol nb K lb) := by
    intro lb hm
    obtain ⟨hm, hn⟩ := List.mem_filter.mp hm
    exact ⟨by simpa using hn, hs.owned lb hm⟩
  cases h : s.lbsNamed lbId with
  | nil => exact .throw _
  | cons lb lbs => exact .pure (h ▸ hrows)

theorem not_other_of {p : Option Protocol} (hn : lb.name = lbId)
    (hp : protocol = none ∨ protocol = p) (hl : lb.protocol = p ∨ lb.protocol = none) :
    isOther lbId protocol lb = false := by
  rw [isOther, decide_eq_false_iff_not, not_or, not_not]
  refine ⟨hn, ?_⟩
  rintro ⟨hprotocol, hnone, hne⟩
  rcases hp with hp | hp
  · exact hprotocol hp
  · rcases hl with hl | hl
    · exact hne (hl.trans hp.symm)
    · exact hnone hl

theorem isolates_findOvnLb {p : Protocol} (hp : protocol = none ∨ protocol = some p) :
    Isolates lbId protocol nb K (findOvnLb lbId p) (Owned lbId protocol nb K) := by
  refine .read fun s hs => .ofExcept fun lb h => ?_
  obtain ⟨hm, hl⟩ := selectOvnLb_ok h
  obtain ⟨hm, hn⟩ := List.mem_filter.mp hm
  refine hs.owned lb hm (not_other_of (by simpa using hn) hp ?_)
  exact hl.imp_right And.left

theorem isolates_findOvnLbOrFirst {p : Option Protocol} (hp : protocol = none ∨ protocol = p) :
    Isolates lbId protocol nb K (findOvnLbOrFirst lbId p) (Owned lbId protocol nb K) := by
  cases p with
  | some p => exact isolates_findOvnLb hp
  | none =>
      have hnone : protocol = none := hp.elim id id
      refine .bind isolates_findOvnLbs fun lbs hlbs => ?_
      cases lbs with
      | nil => exact .throw _
      | cons lb lbs =>
          obtain ⟨hn, ho⟩ := hlbs lb (List.mem_cons_self ..)
          refine .pure (ho ?_)
          rw [isOther, decide_eq_false_iff_not, not_or, not_not]
          exact ⟨hn, fun h => h.1 hnone⟩

/-- No other row has a key of the pool. -/
def OwnsPool (lbId : Str) (protocol : Option Protocol) (nb : Nb) (poolId : Str) : Prop :=
  ∀ row, Others lbId protocol nb row → ∀ up, getPoolKey poolId up ∉ row.externalIds.keys

theorem isolates_findOvnLbByPoolId {poolId : Str} (hp : OwnsPool lbId protocol nb poolId) :
    Isolates lbId protocol nb K (findOvnLbByPoolId poolId) fun found =>
      ∀ lb, found.2 = some lb → Owned lbId protocol nb K lb ∧ K found.1 := by
  have hfind : ∀ up, Isolates lbId protocol nb K (findOvnLbWithPoolKey (getPoolKey poolId up))
      fun found => ∀ lb, found = some lb → Owned lbId protocol nb K lb ∧
        K (getPoolKey poolId up) := by
    intro up
    refine .read fun s hs => .pure fun lb h => ?_
    have hm := List.mem_of_find?_eq_some h
    have hk : getPoolKey poolId up ∈ lb.externalIds.keys := by
      have := List.find?_some h
      rw [Bool.and_eq_true, Dict.contains_iff] at this
      exact this.2
    have hown : Owned lbId protocol nb K lb := by
      refine hs.owned lb hm ?_
      cases ho : isOther lbId protocol lb with
      | false => rfl
      | true => exact absurd hk (hp lb (hs.others hm ho) up)
    exact ⟨hown, hown.keys _ hk⟩
  refine .bind (hfind true) fun found hfound => ?_
  cases found with
  | some lb =>
      exact .pure fun row h => hfound row h
  | none => exact .bind (hfind false) fun found hfound => .pure hfound

end Reading

section Writing
variable (env : Env)

theorem within_setExternalId (hu : OwnsRow lbId protocol nb u) {k : Str} (hk : K k) (v : Str) :
    (Command.lbUpdate u (.setExternalIds (.single k v))).Within lbId protocol nb K := by
  refine ⟨hu, fun j hj => ?_⟩
  rcases (Dict.mem_keys_set Dict.empty k j v).mp hj with rfl | hj
  · exact hk
  · cases hj

theorem isolates_refreshLbVips (ho : Owned lbId protocol nb K lb) (e : Dict Str Str) (b : Bool) :
    Isolates lbId protocol nb K (refreshLbVips env lb e b) fun cs =>
      ∀ c ∈ cs, c.Within lbId protocol nb K := by
  refine .bind (isolates_readLb ho) fun row _ => .bind (.ofExcept fun _ _ => trivial) fun vips _ =>
    ?_
  split
  · exact .pure nofun
  · refine .pure fun c hc => ?_
    rcases List.mem_cons.mp hc with rfl | hc
    · exact ⟨ho.uuid, trivial⟩
    · rw [List.mem_singleton.mp hc]
      exact ⟨ho.uuid, trivial⟩

theorem isolates_cleanLbIfEmpty (ho : Owned lbId protocol nb K lb) (name : Str) (e : Dict Str Str) :
    Isolates lbId protocol nb K (cleanLbIfEmpty lb name e) fun r =>
      ∀ c ∈ r.1, c.Within lbId protocol nb K := by
  refine .read fun s hs => .pure fun c hc => ?_
  split at hc
  · split at hc
    · cases hc
    · rw [List.mem_singleton.mp hc]
      exact ⟨ho.uuid, .inl rfl⟩
    · rw [List.mem_singleton.mp hc]
      exact ho.uuid
  · cases hc

theorem isolates_updateExternalIdsMemberStatus (hb : ∀ k ∈ baseKeys, K k)
    {lb : Option LoadBalancer} (ho : ∀ row, lb = some row → Owned lbId protocol nb K row)
    (member : Str) (status : Option Str) :
    Isolates lbId protocol nb K (updateExternalIdsMemberStatus lb member status) fun _ => True := by
  cases lb with
  | none => exact .throw _
  | some row =>
      have hown := ho row rfl
      refine .bind (isolates_readLb hown) fun _ _ => .bind (.ofExcept fun _ _ => trivial)
        fun statuses _ => isolates_of_uses (.execute fun c hc => ?_)
      rw [List.mem_singleton.mp hc, storeMemberStatuses]
      split
      · exact ⟨hown.uuid, trivial⟩
      · exact within_setExternalId hown.uuid (hb _ (by decide)) _

end Writing

section LoadBalancers
variable (env : Env)

theorem isolates_deleteVipPorts (hw : nb.WellFormed) (hb : ∀ k ∈ baseKeys, K k)
    (port : Option Port) (ports : List (Option Port)) :
    Isolates lbId protocol nb K (deleteVipPorts env port ports) fun _ => True :=
  isolates_peripheral (ownsRow_next hw) hb (peripheral_deleteVipPorts env port ports)

theorem isolates_createLbRow (hb : ∀ k ∈ baseKeys, K k) {info : LoadBalancerInfo}
    (hi : info.id = lbId) {p : Option Protocol} (hp : protocol = none ∨ protocol = p)
    {externalIds : Dict Str Str} (hk : ∀ k ∈ externalIds.keys, K k) (port : Option Port)
    (subnet : Option Subnet) :
    Isolates lbId protocol nb K (createLbRow env info p externalIds port subnet) fun _ => True := by
  have hcreate : ∀ fields, ∀ c ∈ [Command.lbCreate info.id p externalIds fields],
      c.Within lbId protocol nb K := by
    intro fields c hc
    rw [List.mem_singleton.mp hc]
    exact ⟨hi, hp.imp_right Eq.symm, hk⟩
  subst hi
  refine .bind (isolates_of_uses (.transaction (hcreate _))) fun _ _ => ?_
  refine .bind (isolates_findOvnLbOrFirst hp) fun lb ho => ?_
  cases port with
  | none => exact .throw _
  | some port =>
      exact isolates_peripheral ho.uuid hb (peripheral_associateNewLb env info lb port subnet)

theorem isolates_lbCreate (hw : nb.WellFormed) (hb : ∀ k ∈ baseKeys, K k)
    {info : LoadBalancerInfo} (hi : info.id = lbId) {p : Option Protocol}
    (hp : protocol = none ∨ protocol = p) :
    Isolates lbId protocol nb K (lbCreate env info p) fun _ => True := by
  have hdel : ∀ (port : Option Port) (ports : List (Option Port)) (st : Status),
      Isolates lbId protocol nb K (do
        deleteVipPorts env port ports
        return st : Nbctl Status) fun _ => True :=
    fun port ports st => .bind (isolates_deleteVipPorts env hw hb port ports) fun _ _ =>
      .pure trivial
  rw [lbCreate]
  rcases vipPorts env info with ⟨⟨port, subnet, ports⟩, _ | _⟩
  · exact hdel port ports _
  · refine .bind (.ofExcept fun _ _ => trivial) fun vipPortId _ => ?_
    split
    · next vip up _ _ =>
        have hk : ∀ k ∈ (addVipKeys info (baseExternalIds vip vipPortId up)).keys, K k :=
          fun k hk =>
          hb k (Table.addVipKeys_base info (Table.baseExternalIds_base vip vipPortId up) k hk)
        refine .bind (isolates_createLbRow env hb hi hp hk port subnet).attempt fun r _ => ?_
        cases r with
        | ok _ => exact .pure trivial
        | error _ => exact hdel port ports _
    · exact hdel port ports _
    · exact .throw _

theorem isolates_getOrCreateOvnLb (hw : nb.WellFormed) (hb : ∀ k ∈ baseKeys, K k) {p : Protocol}
    (hp : protocol = none ∨ protocol = some p) (up : Bool) (alg : Option LbAlgorithm) :
    Isolates lbId protocol nb K (getOrCreateOvnLb env lbId p up alg)
      (Owned lbId protocol nb K) := by
  refine .bind isolates_findOvnLbs fun lbs hlbs => ?_
  split
  · next lb hlb =>
      obtain ⟨hn, ho⟩ := hlbs lb (List.mem_of_find?_eq_some hlb)
      have hlp : lb.protocol = some p := by simpa using List.find?_some hlb
      exact .pure (ho (not_other_of hn hp (.inl hlp)))
  · refine .bind (R := fun _ => True) ?_ fun _ _ => isolates_findOvnLb hp
    unfold provideOvnLb
    split
    · next lb hlb =>
        obtain ⟨hn, ho⟩ := hlbs lb (List.mem_of_find?_eq_some hlb)
        have hlp : lb.protocol = none := by simpa using List.find?_some hlb
        refine isolates_of_uses (.transaction fun c hc => ?_)
        rw [List.mem_singleton.mp hc]
        exact ⟨(ho (not_other_of hn hp (.inr hlp))).uuid, .inr (hp.imp_right Eq.symm)⟩
    · cases lbs with
      | nil => exact .pure trivial
      | cons first lbs =>
          have hcreate := isolates_lbCreate env hw hb
            (show (copyLbInfo env lbId first up alg).id = lbId from rfl) hp
          exact .bind hcreate fun _ _ => .pure trivial

theorem isolates_lbUpdate (hb : ∀ k ∈ baseKeys, K k) {info : LoadBalancerInfo}
    (hi : info.id = lbId) : Isolates lbId none nb K (lbUpdate env info) fun _ => True := by
  have hrow : ∀ up lb, Owned lbId none nb K lb →
      Isolates lbId none nb K (lbUpdateRow env up lb) fun _ => True := by
    intro up lb ho
    refine .bind (isolates_readLb ho) fun row _ => ?_
    split
    · exact .throw _
    · split
      · refine .bind (isolates_refreshLbVips env ho _ _) fun refresh hrefresh =>
          isolates_executeCommands (List.forall_mem_cons.mpr ⟨?_, hrefresh⟩)
        exact within_setExternalId ho.uuid (hb _ (by decide)) _
      · exact .pure trivial
  subst hi
  unfold lbUpdate
  split
  · exact .pure trivial
  · refine .caught (.bind isolates_findOvnLbs fun lbs hlbs => ?_) fun r => ?_
    · refine .each fun lb hm => hrow _ lb ?_
      obtain ⟨hn, ho⟩ := hlbs lb hm
      refine ho ?_
      rw [isOther, decide_eq_false_iff_not, not_or, not_not]
      exact ⟨hn, fun h => h.1 rfl⟩
    · split
      · exact .pure trivial
      · exact .pure trivial

end LoadBalancers

section Listeners
variable (env : Env) (hw : nb.WellFormed) (hK : ∀ k, K k) {info : ListenerInfo}
  (hi : info.loadbalancerId = lbId) (hp : protocol = none ∨ protocol = some info.protocol)
include hK hp

theorem isolates_listenerCreateOn (ho : Owned lbId protocol nb K lb) (up : Bool) :
    Isolates lbId protocol nb K (listenerCreateOn env info up lb) fun _ => True := by
  refine .bind (isolates_readLb ho) fun row _ =>
    .bind (isolates_refreshLbVips env ho _ _) fun refresh hrefresh =>
      isolates_executeCommands (List.forall_mem_cons.mpr ⟨?_, fun c hc => ?_⟩)
  · exact within_setExternalId ho.uuid (hK _) _
  · rcases List.mem_append.mp hc with hc | hc
    · split at hc
      · cases hc
      · rw [List.mem_singleton.mp hc]
        exact ⟨ho.uuid, .inr (hp.imp_right Eq.symm)⟩
    · exact hrefresh c hc

omit hK hp in
theorem isolates_updateLbhcVipPorts (ho : Owned lbId protocol nb K lb) :
    Isolates lbId protocol nb K (updateLbhcVipPorts env info lb) fun _ => True := by
  have hset : ∀ hc : HealthCheck, OwnsCheck lbId protocol nb hc.uuid → ∀ vip,
      Isolates lbId protocol nb K (executeCommands [.hcUpdate hc.uuid (.setVip vip)])
        fun _ => True :=
    fun hc h vip => isolates_executeCommands (List.forall_mem_cons.mpr ⟨h, nofun⟩)
  unfold updateLbhcVipPorts
  split
  · exact .pure trivial
  · refine .bind (isolates_healthChecksOf ho) fun lbhcs hlbhcs => .each fun hc hm => ?_
    split
    · unfold updateLbhcVipPort
      split
      · exact hset hc (hlbhcs hc hm) _
      · split
        · exact .bind (.ofExcept fun _ _ => trivial) fun _ _ => hset hc (hlbhcs hc hm) _
        · exact hset hc (hlbhcs hc hm) _
    · exact .pure trivial

include hw hi in
theorem isolates_listenerCreate :
    Isolates lbId protocol nb K (listenerCreate env info) fun _ => True := by
  subst hi
  unfold listenerCreate
  split
  · exact .throw _
  · next up _ =>
      refine .bind (isolates_getOrCreateOvnLb env hw (fun k _ => hK k) hp up _) fun lb ho => ?_
      refine .bind (isolates_listenerCreateOn env hK hp ho up).attempt fun r _ => ?_
      cases r with
      | error _ => exact .pure trivial
      | ok _ => exact .bind (isolates_updateLbhcVipPorts env ho) fun _ _ => .pure trivial

include hi in
omit hK in
theorem isolates_listenerDelete :
    Isolates lbId protocol nb K (listenerDelete env info) fun _ => True := by
  subst hi
  refine .bind (isolates_findOvnLb hp).attempt fun found hfound => ?_
  split
  · exact .pure trivial
  · exact .throw _
  · next lb =>
      have ho := hfound lb rfl
      refine .bind (isolates_readLb ho) fun row _ => ?_
      split
      · refine .caught (.bind (isolates_cleanLbIfEmpty ho _ _) fun cleaned hcleaned => ?_)
          fun r => ?_
        · have hcommit : ∀ refresh : List Command,
              (∀ c ∈ refresh, c.Within info.loadbalancerId protocol nb K) →
              Isolates info.loadbalancerId protocol nb K (executeCommands
                (.lbUpdate lb.uuid (.removeExternalId (getListenerKey info.id true)) ::
                  (cleaned.1 ++ refresh))) fun _ => True :=
            fun refresh hr => isolates_executeCommands (List.forall_mem_cons.mpr
              ⟨⟨ho.uuid, trivial⟩, fun c hc => (List.mem_append.mp hc).elim (hcleaned c) (hr c)⟩)
          dsimp only
          split
          · exact .bind (.pure (R := (· = [])) rfl) fun refresh hr =>
            hcommit refresh (by rw [show refresh = [] from hr]; exact List.forall_mem_nil _)
          · exact .bind (isolates_refreshLbVips env ho _ _) hcommit
        · split
          · exact .pure trivial
          · exact .pure trivial
      · exact .pure trivial

omit hp in
theorem isolates_listenerUpdateOn (ho : Owned lbId protocol nb K lb) (key : Str)
    (present : Dict Str Str) :
    Isolates lbId protocol nb K (listenerUpdateOn env info key lb present) fun _ => True := by
  unfold listenerUpdateOn
  split
  · exact .throw _
  · next value _ =>
      have hset : ∀ e : Dict Str Str, (Command.lbUpdate lb.uuid (.setExternalIds e)).Within lbId
          protocol nb K := fun e => ⟨ho.uuid, fun k _ => hK k⟩
      have hremove : ∀ k, (Command.lbUpdate lb.uuid (.removeExternalId k)).Within lbId
          protocol nb K := fun k => ⟨ho.uuid, trivial⟩
      refine .bind (isolates_refreshLbVips env ho _ _) fun refresh hrefresh =>
        isolates_executeCommands fun c hc => ?_
      simp only [List.mem_append] at hc
      obtain (hc | hc) | hc := hc
      · by_cases hk : key = (info.adminStateUp.map (getListenerKey info.id)).getD key
        · rw [if_neg (not_not_intro hk)] at hc
          cases hc
        · rw [if_pos hk, List.mem_singleton] at hc
          exact hc ▸ hremove _
      · simp only [List.mem_ite_nil_left, List.mem_singleton] at hc
        exact hc.2 ▸ hset _
      · exact hrefresh c hc

include hi in
theorem isolates_listenerUpdate :
    Isolates lbId protocol nb K (listenerUpdate env info) fun _ => True := by
  subst hi
  refine .bind (isolates_findOvnLb hp).attempt fun found hfound => ?_
  split
  · exact .pure trivial
  · exact .throw _
  · next lb =>
      have ho := hfound lb rfl
      split
      · exact .pure trivial
      · refine .bind (isolates_readLb ho) fun row _ => ?_
        split
        · exact .pure trivial
        · refine .caught (isolates_listenerUpdateOn env hK ho _ _) fun r => ?_
          split
          · exact .pure trivial
          · exact .pure trivial

end Listeners

section Pools
variable (env : Env) (hw : nb.WellFormed) (hK : ∀ k, K k) {info : PoolInfo}
  (hi : info.loadbalancerId = lbId) (hp : protocol = none ∨ protocol = some info.protocol)

theorem within_createAffinity {row : LoadBalancer} (hu : OwnsRow lbId protocol nb row.uuid) :
    ∀ c ∈ createAffinity row info, c.Within lbId protocol nb K := by
  intro c hc
  unfold createAffinity at hc
  split at hc
  · split at hc
    · rw [List.mem_singleton.mp hc]
      exact ⟨hu, trivial⟩
    · cases hc
  · cases hc

theorem within_updateAffinity {row : LoadBalancer} (hu : OwnsRow lbId protocol nb row.uuid) :
    ∀ c ∈ updateAffinity row info, c.Within lbId protocol nb K := by
  intro c hc
  unfold updateAffinity at hc
  split at hc
  · rw [List.mem_singleton.mp hc]
    exact ⟨hu, trivial⟩
  · cases hc

include hK in
theorem within_poolDelete (hu : OwnsRow lbId protocol nb u) {refresh clean : List Command}
    (hrefresh : ∀ c ∈ refresh, c.Within lbId protocol nb K)
    (hclean : ∀ c ∈ clean, c.Within lbId protocol nb K) (present gone affinity : Bool)
    (listeners : List (Str × Str)) (e : Dict Str Str) (j k o : Str) :
    ∀ c ∈ (if present then [Command.lbUpdate u (.removeExternalId j)] else []) ++ refresh ++
      (listeners.map fun _ => .lbUpdate u (.setExternalIds e)) ++
      (if gone then [.lbUpdate u (.removeExternalId k)] else []) ++
      (if affinity then [.lbUpdate u (.removeOption o)] else []) ++ clean,
      c.Within lbId protocol nb K := by
  intro c hc
  simp only [List.mem_append, List.mem_map, List.mem_ite_nil_right, List.mem_singleton] at hc
  obtain ((((⟨-, rfl⟩ | hc) | ⟨_, -, rfl⟩) | ⟨-, rfl⟩) | ⟨-, rfl⟩) | hc := hc
  · exact ⟨hu, trivial⟩
  · exact hrefresh c hc
  · exact ⟨hu, fun k _ => hK k⟩
  · exact ⟨hu, trivial⟩
  · exact ⟨hu, trivial⟩
  · exact hclean c hc

include hw hK hi hp

theorem isolates_poolCreate :
    Isolates lbId protocol nb K (poolCreate env info) fun _ => True := by
  subst hi
  unfold poolCreate
  split
  · exact .throw _
  · next up _ =>
      refine .bind (isolates_getOrCreateOvnLb env hw (fun k _ => hK k) hp up _) fun lb ho => ?_
      refine .caught (.bind (isolates_readLb ho) fun row hrow =>
        isolates_executeCommands (List.forall_mem_cons.mpr ⟨⟨ho.uuid, fun k _ => hK k⟩,
          within_createAffinity hrow.1.uuid⟩)) fun r => ?_
      split
      · exact .pure trivial
      · exact .pure trivial

omit hw in
theorem isolates_poolDelete :
    Isolates lbId protocol nb K (poolDelete env info) fun _ => True := by
  subst hi
  refine .bind (isolates_findOvnLb hp).attempt fun found hfound => ?_
  split
  · exact .pure trivial
  · exact .throw _
  · next lb =>
      have ho := hfound lb rfl
      refine .bind (isolates_readLb ho) fun row _ => ?_
      have hon : Isolates info.loadbalancerId protocol nb K
          (poolDeleteOn env info lb row.externalIds) fun _ => True := by
        unfold poolDeleteOn
        dsimp only
        split
        · refine .bind (isolates_refreshLbVips env ho _ _) fun refresh hrefresh => ?_
          refine .bind (isolates_readLb ho) fun row' _ => ?_
          refine .bind (isolates_cleanLbIfEmpty ho _ _) fun cleaned hcleaned => ?_
          exact isolates_executeCommands
            (within_poolDelete hK ho.uuid hrefresh hcleaned true _ _ _ _ _ _ _)
        · refine .bind (.pure (R := (· = [])) rfl) fun refresh hrefresh => ?_
          refine .bind (isolates_readLb ho) fun row' _ => ?_
          refine .bind (isolates_cleanLbIfEmpty ho _ _) fun cleaned hcleaned => ?_
          have hnone : ∀ c ∈ refresh, c.Within info.loadbalancerId protocol nb K := by
            rw [show refresh = [] from hrefresh]
            exact List.forall_mem_nil _
          exact isolates_executeCommands
            (within_poolDelete hK ho.uuid hnone hcleaned false _ _ _ _ [] _ _)
      refine .caught hon fun r => ?_
      split
      · exact .pure trivial
      · exact .pure trivial

omit hw in
theorem isolates_poolUpdate :
    Isolates lbId protocol nb K (poolUpdate env info) fun _ => True := by
  subst hi
  unfold poolUpdate
  split
  · exact .pure trivial
  refine .bind (isolates_findOvnLb hp).attempt fun found hfound => ?_
  split
  · exact .pure trivial
  · exact .throw _
  · next lb =>
      have ho := hfound lb rfl
      refine .bind (isolates_readLb ho) fun row _ => ?_
      have hmove : ∀ j k : Str, Isolates info.loadbalancerId protocol nb K
          (movePoolKey env lb j k row.externalIds) fun cs =>
            ∀ c ∈ cs, c.Within info.loadbalancerId protocol nb K := by
        intro j k
        unfold movePoolKey
        split
        · exact .pure nofun
        · refine .bind (isolates_refreshLbVips env ho _ _) fun refresh hrefresh => .pure ?_
          refine List.forall_mem_cons.mpr ⟨⟨ho.uuid, trivial⟩, ?_⟩
          exact List.forall_mem_cons.mpr ⟨⟨ho.uuid, fun k _ => hK k⟩, hrefresh⟩
      have hon : Isolates info.loadbalancerId protocol nb K
          (poolUpdateOn env info lb row.externalIds) fun _ => True := by
        have hcommit : ∀ moved : List Command,
            (∀ c ∈ moved, c.Within info.loadbalancerId protocol nb K) → ∀ row : LoadBalancer,
            Owned info.loadbalancerId protocol nb K row →
            Isolates info.loadbalancerId protocol nb K
              (executeCommands (moved ++ updateAffinity row info)) fun _ => True := by
          intro moved hmoved row hrow
          refine isolates_executeCommands fun c hc => ?_
          exact (List.mem_append.mp hc).elim (hmoved c) (within_updateAffinity hrow.uuid c)
        unfold poolUpdateOn
        split
        · refine .bind (.pure (R := (· = [])) rfl) fun moved hmoved => ?_
          refine .bind (isolates_readLb ho) fun row hrow => ?_
          exact .bind (hcommit moved (hmoved ▸ nofun) row hrow.1) fun _ _ => .throw _
        · refine .bind (hmove _ _) fun moved hmoved => ?_
          refine .bind (isolates_readLb ho) fun row hrow => ?_
          exact .bind (hcommit moved hmoved row hrow.1) fun _ _ => .pure trivial
      refine .caught hon fun r => ?_
      split
      · exact .pure trivial
      · exact .pure trivial

end Pools

end Programs

end OvnOctavia
