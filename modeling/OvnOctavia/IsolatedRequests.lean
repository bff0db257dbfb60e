import OvnOctavia.IsolatedHandlers

/-!
The members of a pool and its health monitor are found by the pool's key and by the
monitor's id; a cascading deletion finds the pools in the keys of its rows.
-/

namespace OvnOctavia

section Programs
variable {lbId : Str} {protocol : Option Protocol} {nb : Nb} {K : Str → Prop}
  {α : Type} {p : Nbctl α} {lb : LoadBalancer} {u : Nat} (env : Env)
  (hw : nb.WellFormed) (hb : ∀ k ∈ baseKeys, K k)

theorem isolates_executeSetMembers (ho : Owned lbId protocol nb K lb) {poolKey : Str}
    (hk : K poolKey) (value : Str) {refresh : List Command}
    (hr : ∀ c ∈ refresh, c.Within lbId protocol nb K) :
    Isolates lbId protocol nb K (executeCommands
      (.lbUpdate lb.uuid (.setExternalIds (.single poolKey value)) :: refresh)) fun _ => True :=
  isolates_executeCommands (List.forall_mem_cons.mpr ⟨within_setExternalId ho.uuid hk value, hr⟩)

section Members
variable {member : MemberInfo}
include hb

theorem isolates_addMember {lb : Option LoadBalancer} {poolKey : Str}
    (ho : ∀ row, lb = some row → Owned lbId protocol nb K row ∧ K poolKey) :
    Isolates lbId protocol nb K (addMember env member lb poolKey) fun _ => True := by
  cases lb with
  | none => exact .throw _
  | some lb =>
      obtain ⟨ho, hk⟩ := ho lb rfl
      refine .bind (isolates_readLb ho) fun row _ => ?_
      split
      · exact .throw _
      · next value _ =>
          refine .bind (.ofExcept fun _ _ => trivial) fun memberInfo _ => ?_
          split
          · exact .pure trivial
          · refine .bind (R := fun _ => True) ?_ fun _ _ => ?_
            · unfold addMemberOn
              dsimp only
              split
              · exact .bind (isolates_refreshLbVips env ho _ _) fun refresh hr =>
                  isolates_executeSetMembers ho hk _ hr
              · exact .bind (.pure (R := (· = [])) rfl) fun refresh hr =>
                  isolates_executeSetMembers ho hk _ (hr ▸ nofun)
            · exact .bind (isolates_peripheral ho.uuid hb
                (peripheral_associateMember env member lb)) fun _ _ => .pure trivial

theorem isolates_memberCreate {poolId : Str} (hm : member.poolId = some poolId)
    (hp : OwnsPool lbId protocol nb poolId) :
    Isolates lbId protocol nb K (memberCreate env member) fun _ => True := by
  unfold memberCreate
  rw [hm]
  refine .bind (isolates_findOvnLbByPoolId hp) fun found hfound => ?_
  obtain ⟨poolKey, lb⟩ := found
  refine .caught (isolates_addMember env hb hfound) fun added => ?_
  have hend : ∀ status : Str, Isolates lbId protocol nb K (do
      updateExternalIdsMemberStatus lb member.id (some status)
      currentOperatingStatuses env lb) fun _ => True := fun status =>
    .bind (isolates_updateExternalIdsMemberStatus hb (fun row h => (hfound row h).1) _ _)
      fun _ _ => isolates_of_uses (uses_currentOperatingStatuses env lb)
  split
  · exact .throw _
  · next up _ =>
      split
      · exact .bind (R := fun _ => True) (.pure trivial) fun _ _ => hend _
      · split
        · exact .bind (R := fun _ => True) (.pure trivial) fun _ _ => hend _
        · next memberInfo lb =>
            have ho := (hfound lb rfl).1
            refine .bind (isolates_readLb ho) fun row _ => ?_
            split
            · exact .bind (isolates_peripheral ho.uuid hb
                (peripheral_newMemberStatus env lb poolKey memberInfo)) fun _ _ => hend _
            · exact .bind (R := fun _ => True) (.pure trivial) fun _ _ => hend _
        · exact .bind (R := fun _ => True) (.pure trivial) fun _ _ => hend _

theorem isolates_removeMember {lb : Option LoadBalancer} {poolKey : Str}
    (ho : ∀ row, lb = some row → Owned lbId protocol nb K row ∧ K poolKey) :
    Isolates lbId protocol nb K (removeMember env member lb poolKey) fun _ => True := by
  cases lb with
  | none => exact .throw _
  | some lb =>
      obtain ⟨ho, hk⟩ := ho lb rfl
      refine .bind (isolates_readLb ho) fun row _ => ?_
      split
      · exact .throw _
      · next value _ =>
          refine .bind (.ofExcept fun _ _ => trivial) fun memberInfo _ => ?_
          split
          · have hremove : Isolates lbId protocol nb K (do
                removeMemberOn env lb poolKey row.externalIds ((value.splitOn ',').erase memberInfo)
                updateLbToLsAssociation env lb { subnetId := member.subnetId, associate := false })
                fun _ => True := by
              refine .bind (R := fun _ => True) ?_ fun _ _ => isolates_peripheral ho.uuid hb
                (peripheral_updateLbToLsAssociation env lb _)
              exact .bind (isolates_refreshLbVips env ho _ _) fun refresh hr =>
                isolates_executeSetMembers ho hk _ hr
            refine .bind (isolates_readLb ho) fun row' _ => ?_
            split
            · exact .bind (isolates_peripheral ho.uuid hb
                (peripheral_updateHmMember env lb poolKey _ true)) fun _ _ => hremove
            · exact hremove
          · exact .pure trivial

theorem isolates_memberDelete {poolId : Str} (hm : member.poolId = some poolId)
    (hp : OwnsPool lbId protocol nb poolId) :
    Isolates lbId protocol nb K (memberDelete env member) fun _ => True := by
  unfold memberDelete
  rw [hm]
  refine .bind (isolates_findOvnLbByPoolId hp) fun found hfound => ?_
  obtain ⟨poolKey, lb⟩ := found
  refine .caught (.bind (isolates_removeMember env hb hfound) fun _ _ => ?_) fun removed => ?_
  · split
    · exact .throw _
    · next lb =>
        have ho := (hfound lb rfl).1
        refine .bind (isolates_readLb ho) fun row _ => ?_
        split
        · split
          · exact .throw _
          · refine .bind (.ofExcept fun _ _ => trivial) fun used _ => ?_
            split
            · exact isolates_peripheral ho.uuid hb (peripheral_cleanUpHmPort env _)
            · exact .pure trivial
        · exact .pure trivial
  · exact .bind (isolates_updateExternalIdsMemberStatus hb (fun row h => (hfound row h).1) _ _)
      fun _ _ => .bind (isolates_of_uses (uses_currentOperatingStatuses env lb)) fun _ _ =>
        .pure trivial

theorem isolates_memberUpdate {poolId : Str} (hm : member.poolId = some poolId)
    (hp : OwnsPool lbId protocol nb poolId) :
    Isolates lbId protocol nb K (memberUpdate env member) fun _ => True := by
  unfold memberUpdate
  rw [hm]
  refine .bind (isolates_findOvnLbByPoolId hp) fun found hfound => ?_
  obtain ⟨poolKey, lb⟩ := found
  refine .bind (R := fun _ => True) ?_ fun r _ =>
    .bind (isolates_of_uses (uses_currentOperatingStatuses env lb)) fun _ _ => .pure trivial
  unfold memberUpdateStatus
  split
  · exact .pure trivial
  · next lb =>
      have ho := (hfound lb rfl).1
      have hread : Isolates lbId protocol nb K (readMemberStatus lb member.id) fun _ => True :=
        .bind (isolates_readLb ho) fun _ _ => .ofExcept fun _ _ => trivial
      refine .caught hread fun r => ?_
      split
      · exact .pure trivial
      · split
        · exact .pure trivial
        · refine .bind (isolates_readLb ho) fun row _ => .caught ?_ fun updated => .pure trivial
          refine .bind (isolates_updateExternalIdsMemberStatus hb
            (fun row h => (hfound row h).1) _ _) fun _ _ => ?_
          split
          · exact .bind (isolates_readLb ho) fun row _ =>
              .bind (isolates_refreshLbVips env ho _ _) fun refresh hr =>
                isolates_executeCommands hr
          · exact .pure trivial

end Members

section Monitors
variable {info : HmInfo}

/-- No health check of another row and no list of monitors of one names the monitor. -/
def OwnsMonitor (lbId : Str) (protocol : Option Protocol) (nb : Nb) (hmId : Str) : Prop :=
  ∀ row, Others lbId protocol nb row →
    (∀ hc ∈ nb.healthChecks, hc.uuid ∈ row.healthCheck →
      hc.externalIds.get? lbExtIdsHmKey ≠ some hmId) ∧
    ∀ hms, row.externalIds.get? lbExtIdsHmsKey = some hms → Str.contains hmId hms = false

theorem isolates_findOvnLbFromHmId {hmId : Str} (hm : OwnsMonitor lbId protocol nb hmId) :
    Isolates lbId protocol nb K (findOvnLbFromHmId hmId) fun found =>
      (∀ hc ∈ found.1, OwnsCheck lbId protocol nb hc.uuid) ∧
        ∀ lb, found.2 = some lb → Owned lbId protocol nb K lb := by
  refine .read fun s hs => .pure ⟨fun hc hmem row ho hu => ?_, fun lb hlb => ?_⟩
  · obtain ⟨hmem, hkey⟩ := List.mem_filter.mp hmem
    exact (hm row ho).1 hc (hs.foreign row ho hc hmem hu) hu (of_decide_eq_true hkey)
  · have hmem := List.mem_of_find?_eq_some hlb
    have hnames := List.find?_some (p := fun lb : LoadBalancer =>
      (lb.externalIds.get? lbExtIdsHmsKey).any (Str.contains hmId)) hlb
    obtain ⟨hms, hget, hc⟩ := (Option.any_eq_true _ _).mp hnames
    refine hs.owned lb hmem ?_
    cases ho : isOther lbId protocol lb with
    | false => rfl
    | true =>
        rw [(hm lb (hs.others hmem ho)).2 hms hget] at hc
        cases hc

include hb

theorem isolates_updateMemberStatuses (ho : Owned lbId protocol nb K lb)
    (poolId provisioningStatus operatingStatus : Str) :
    Isolates lbId protocol nb K
      (updateMemberStatuses lb poolId provisioningStatus operatingStatus) fun _ => True := by
  refine .bind (isolates_readLb ho) fun row _ => ?_
  split
  · exact .throw _
  · exact .pure trivial
  · refine .mapEach (S := fun _ => True) fun memInfo _ => .bind (.ofExcept fun _ _ => trivial)
      fun id _ => ?_
    refine .bind (isolates_updateExternalIdsMemberStatus hb (fun row h => ?_) _ _)
      fun _ _ => .pure trivial
    cases h
    exact ho

theorem isolates_addLbhc (ho : Owned lbId protocol nb K lb) (poolKey : Str) :
    Isolates lbId protocol nb K (addLbhc env lb poolKey info) fun _ => True := by
  refine .bind (isolates_readLb ho) fun row hrow => ?_
  split
  · exact .pure trivial
  refine .caught (.bind (R := fun cs : List Command => ∀ c ∈ cs, c.Within lbId protocol nb K)
    (.ofExcept fun cs hcs => ?_) fun cs hcs => isolates_of_uses (.transaction hcs))
    fun added => .pure trivial
  have hu := hrow.1.uuid
  obtain ⟨hms, -, hcs⟩ := Except.bind_eq_ok.mp hcs
  obtain ⟨vips, hvips, hcs⟩ := Except.bind_eq_ok.mp hcs
  obtain ⟨fips, hfips, hcs⟩ := Except.bind_eq_ok.mp hcs
  cases hcs
  intro c hc
  rcases List.mem_append.mp hc with hc | hc
  · obtain ⟨cs, hmem, hc⟩ := List.mem_flatten.mp hc
    obtain ⟨vip, -, hvip⟩ := Except.exists_of_mem_mapM hvips hmem
    obtain ⟨text, -, hvip⟩ := Except.bind_eq_ok.mp hvip
    cases hvip
    rcases List.mem_cons.mp hc with rfl | hc
    · exact hu
    · rw [List.mem_singleton.mp hc]
      exact within_setExternalId hu (hb _ (by decide)) _
  · obtain ⟨fip, -, hfip⟩ := Except.exists_of_mem_mapM hfips hc
    obtain ⟨text, -, hfip⟩ := Except.bind_eq_ok.mp hfip
    cases hfip
    exact hu

theorem isolates_monitorMembers (ho : Owned lbId protocol nb K lb) (poolKey : Str)
    (members : List MemberData) :
    Isolates lbId protocol nb K (monitorMembers env lb poolKey members) fun _ => True := by
  induction members with
  | nil => exact .pure trivial
  | cons m ms ih =>
      refine .bind (isolates_peripheral ho.uuid hb
        (peripheral_updateHmMember env lb poolKey _ false)) fun status _ => ?_
      split
      · exact .bind (isolates_peripheral ho.uuid hb (peripheral_cleanIpPortMappings env lb poolKey))
          fun _ _ => .pure trivial
      · refine .bind (isolates_updateExternalIdsMemberStatus hb (fun row h => ?_) _ _)
          fun _ _ => ih
        cases h
        exact ho

theorem isolates_hmCreateOn (ho : Owned lbId protocol nb K lb) (poolKey : Str) :
    Isolates lbId protocol nb K (hmCreateOn env info poolKey lb) fun _ => True := by
  refine .bind (isolates_readLb ho) fun row _ => ?_
  refine .bind (isolates_updateMemberStatuses hb ho _ _ _) fun members _ => ?_
  refine .bind (isolates_addLbhc env hb ho poolKey) fun added _ => ?_
  split
  · exact .pure trivial
  refine .bind (isolates_of_uses (uses_readMembers lb poolKey)) fun members _ => ?_
  refine .bind (isolates_monitorMembers env hb ho poolKey members) fun monitored _ => ?_
  split
  · exact .pure trivial
  exact .bind (isolates_of_uses (uses_currentOperatingStatuses env _)) fun _ _ => .pure trivial

theorem isolates_hmCreate (hp : OwnsPool lbId protocol nb info.poolId) :
    Isolates lbId protocol nb K (hmCreate env info) fun _ => True := by
  refine .bind (isolates_findOvnLbByPoolId hp) fun found hfound => ?_
  obtain ⟨poolKey, lb⟩ := found
  cases lb with
  | none => exact .pure trivial
  | some lb =>
      have ho := (hfound lb rfl).1
      refine .bind (isolates_readLb ho) fun row _ => ?_
      split
      · exact isolates_hmCreateOn env hb ho poolKey
      · exact .pure trivial

omit hb in
theorem isolates_hmUpdate (hm : OwnsMonitor lbId protocol nb info.id) :
    Isolates lbId protocol nb K (hmUpdate info) fun _ => True := by
  refine .bind (isolates_findOvnLbFromHmId hm) fun found hfound => ?_
  obtain ⟨lbhcs, lb⟩ := found
  have hset : ∀ c ∈ lbhcs.map fun hc =>
    Command.hcUpdate hc.uuid (.setOptions (hmUpdateOptions info)),
      c.Within lbId protocol nb K := by
    intro c hc
    obtain ⟨x, hx, rfl⟩ := List.mem_map.mp hc
    exact hfound.1 x hx
  dsimp only
  split
  · exact .pure trivial
  split
  · refine .bind (R := fun _ => True) (.pure trivial) fun lb _ => ?_
    split
    · exact .pure trivial
    · exact .bind (isolates_executeCommands hset) fun _ _ => .pure trivial
  · refine .bind (isolates_of_uses (uses_findOvnLbByPoolId _)) fun found _ => ?_
    refine .bind (R := fun _ => True) (.pure trivial) fun lb _ => ?_
    split
    · exact .pure trivial
    · exact .bind (isolates_executeCommands hset) fun _ _ => .pure trivial

theorem isolates_hmDeleteOn (ho : Owned lbId protocol nb K lb) {lbhcs : List HealthCheck}
    (hcs : ∀ hc ∈ lbhcs, OwnsCheck lbId protocol nb hc.uuid) :
    Isolates lbId protocol nb K (hmDeleteOn env info lbhcs lb) fun _ => True := by
  have hcommit : ∀ hms : List Str, Isolates lbId protocol nb K (executeCommands
      ((lbhcs.flatMap fun hc => [Command.lbUpdate lb.uuid (.removeHealthCheck hc.uuid),
        .hcDestroy hc.uuid]) ++
        [if hms = [] then .lbUpdate lb.uuid (.removeExternalId lbExtIdsHmsKey)
         else setHms lb hms])) fun _ => True := by
    intro hms
    refine isolates_executeCommands fun c hc => ?_
    rcases List.mem_append.mp hc with hc | hc
    · obtain ⟨x, hx, hc⟩ := List.mem_flatMap.mp hc
      rcases List.mem_cons.mp hc with rfl | hc
      · exact ⟨ho.uuid, trivial⟩
      · rw [List.mem_singleton.mp hc]
        exact hcs x hx
    · rw [List.mem_singleton.mp hc]
      split
      · exact ⟨ho.uuid, trivial⟩
      · exact within_setExternalId ho.uuid (hb _ (by decide)) _
  have hports : ∀ subnets : List Str, Isolates lbId protocol nb K
      (Prog.each (cleanUpHmPort env) subnets) fun _ => True := fun subnets =>
    .each fun subnet _ => isolates_peripheral ho.uuid hb (peripheral_cleanUpHmPort env subnet)
  have hclean := isolates_peripheral ho.uuid hb
    (peripheral_cleanIpPortMappings env lb (getPoolKey info.poolId true))
  have hstatuses := isolates_updateMemberStatuses hb ho info.poolId ACTIVE NO_MONITOR
  have hhms : ∀ row : LoadBalancer, Isolates lbId protocol nb K
      (Prog.ofExcept (loadHms row.externalIds)) fun _ => True := fun row =>
    .ofExcept fun _ _ => trivial
  refine .bind (isolates_readLb ho) fun row _ => ?_
  dsimp only
  split
  · refine .bind (R := fun _ => True) (.pure trivial) fun found _ => ?_
    exact .bind hstatuses fun _ _ => .bind (hhms row) fun hms _ => .bind hclean fun _ _ =>
      .bind (hcommit _) fun _ _ => .bind (hports _) fun _ _ => .pure trivial
  · refine .bind (.ofExcept fun _ _ => trivial) fun members _ => ?_
    refine .bind (R := fun _ => True) (.pure trivial) fun found _ => ?_
    exact .bind hstatuses fun _ _ => .bind (hhms row) fun hms _ => .bind hclean fun _ _ =>
      .bind (hcommit _) fun _ _ => .bind (hports _) fun _ _ => .pure trivial

theorem isolates_hmDelete (hm : OwnsMonitor lbId protocol nb info.id) :
    Isolates lbId protocol nb K (hmDelete env info) fun _ => True := by
  refine .bind (isolates_findOvnLbFromHmId hm) fun found hfound => ?_
  split
  · next hc lbhcs lb => exact isolates_hmDeleteOn env hb (hfound.2 lb rfl) hfound.1
  · exact .pure trivial

end Monitors

section Deletion

theorem isolates_untilFailure {β γ : Type} {f : β → γ → Nbctl (β × Except Exc Unit)} {l : List γ}
    (hf : ∀ c ∈ l, ∀ acc, Isolates lbId protocol nb K (f acc c) fun _ => True) (acc : β) :
    Isolates lbId protocol nb K (untilFailure f acc l) fun _ => True := by
  induction l generalizing acc with
  | nil => exact .pure trivial
  | cons c l ih =>
      refine .bind (hf c (List.mem_cons_self ..) acc) fun r _ => ?_
      split
      · exact ih (fun d hd => hf d (List.mem_cons_of_mem _ hd)) _
      · exact .pure trivial

include hw hb

theorem isolates_handleMemberDvr {member : MemberInfo} (added : Bool) :
    Isolates lbId protocol nb K (handleMemberDvr env member added) fun _ => True :=
  isolates_peripheral (ownsRow_next hw) hb (peripheral_handleMemberDvr env member added)

/-- The key is not that of a pool of the others. -/
def OwnsKey (lbId : Str) (protocol : Option Protocol) (nb : Nb) (k : Str) : Prop :=
  Str.startsWith lbExtIdsPoolPrefix k = true → ∀ id, idOfKey k = .ok id →
    OwnsPool lbId protocol nb id

theorem isolates_cascadeKey {kv : Str × Str} (hk : OwnsKey lbId protocol nb kv.1) (acc : Deleted) :
    Isolates lbId protocol nb K (cascadeKey env acc kv) fun _ => True := by
  unfold cascadeKey
  split
  · exact .pure trivial
  · next id hid =>
      split
      · next hpool =>
          have hmember : ∀ memInfo acc, Isolates lbId protocol nb K
              (cascadeMember env id acc memInfo) fun _ => True := by
            intro memInfo acc
            unfold cascadeMember
            split
            · exact .pure trivial
            · next member hmember =>
                have hm : member.poolId = some id := by
                  unfold cascadeMemberInfo at hmember
                  split at hmember
                  · split at hmember
                    · cases hmember
                      rfl
                    · cases hmember
                  · cases hmember
                refine .caught (.bind (isolates_memberDelete env hb hm (hk hpool id hid))
                  fun _ _ => isolates_handleMemberDvr env hw hb false) fun r => ?_
                split
                · exact .pure trivial
                · exact .pure trivial
          refine .bind (isolates_untilFailure (fun m _ acc => hmember m acc) acc) fun r _ => ?_
          split
          · exact .pure trivial
          · exact .pure trivial
      · split
        · exact .pure trivial
        · exact .pure trivial

omit hw hb in
theorem within_lbDeleteCommands (hu : OwnsRow lbId protocol nb lb.uuid) (s : Nb) :
    ∀ c ∈ lbDeleteCommands s lb, c.Within lbId protocol nb K := by
  intro c hc
  simp only [lbDeleteCommands, List.mem_append, List.mem_map, List.mem_ite_nil_right,
    List.mem_singleton] at hc
  obtain ((((⟨-, rfl⟩ | ⟨_, -, rfl⟩) | ⟨_, -, rfl⟩) | ⟨_, -, rfl⟩) | ⟨_, -, rfl⟩) | rfl := hc
  · exact ⟨hu, trivial⟩
  all_goals exact hu

theorem isolates_lbDeleteRow (hK : ∀ k, K k → OwnsKey lbId protocol nb k)
    (ho : Owned lbId protocol nb K lb) (cascade : Bool) (acc : Deleted) :
    Isolates lbId protocol nb K (lbDeleteRow env cascade acc lb) fun _ => True := by
  refine .bind (isolates_readLb ho) fun row hrow => ?_
  refine .bind (isolates_untilFailure (fun kv hkv acc => ?_) _) fun r _ => ?_
  · refine isolates_cascadeKey env hw hb (hK _ (hrow.1.keys _ ?_)) acc
    split at hkv
    · exact List.mem_map_of_mem hkv
    · cases hkv
  split
  · exact .pure trivial
  · refine .bind (isolates_readLb ho) fun row _ => .bind .get fun s _ => ?_
    have hcs := within_lbDeleteCommands (K := K) ho.uuid s
    refine .caught (.bind (R := fun _ => True) (.tryCatch (isolates_executeCommands hcs)
      fun e => ?_) fun _ _ => ?_) fun deleted => .pure trivial
    · split
      · refine .each fun c hc => .tryCatch (isolates_of_uses (.transaction fun d hd => ?_)) fun e =>
          ?_
        · exact List.mem_singleton.mp hd ▸ hcs c hc
        · split
          · exact .pure trivial
          · exact .throw _
      · exact .throw _
    · split
      · exact .each fun subnet _ =>
          isolates_peripheral ho.uuid hb (peripheral_cleanUpHmPort env subnet)
      · exact .pure trivial

theorem isolates_lbDelete (hK : ∀ k, K k → OwnsKey lbId none nb k) {info : LoadBalancerInfo}
    (hi : info.id = lbId) : Isolates lbId none nb K (lbDelete env info) fun _ => True := by
  subst hi
  have hports : ∀ ids : List Str, Isolates info.id none nb K
      (Prog.each (deletePort env) ids) fun _ => True := fun ids =>
    .each fun id _ => isolates_peripheral (ownsRow_next hw) hb (peripheral_deletePort env id)
  refine .bind isolates_findOvnLbs.attempt fun found hfound => ?_
  split
  · have hport : ∀ id, Isolates info.id none nb K (deletePort env id) fun _ => True := fun id =>
      isolates_peripheral (ownsRow_next hw) hb (peripheral_deletePort env id)
    refine .caught ?_ fun vip => .caught (.each fun vip _ => hport vip.portId) fun additional => ?_
    · split
      · exact hport _
      · exact .pure trivial
    · split
      · exact .pure trivial
      · exact .pure trivial
  · exact .throw _
  · exact .throw _
  · next lb lbs =>
      have hlbs : ∀ row ∈ lb :: lbs, Owned info.id none nb K row := by
        intro row hm
        obtain ⟨hn, ho⟩ := hfound _ rfl row hm
        refine ho ?_
        rw [isOther, decide_eq_false_iff_not, not_or, not_not]
        exact ⟨hn, fun h => h.1 rfl⟩
      refine .bind (isolates_readLb (hlbs lb (List.mem_cons_self ..))) fun row _ => ?_
      split
      · exact .pure trivial
      · refine .bind (isolates_untilFailure (fun row hm acc =>
          isolates_lbDeleteRow env hw hb hK (hlbs row hm) info.cascade acc) {}) fun r _ => ?_
        split
        · exact .pure trivial
        · refine .caught (hports _) fun r => ?_
          split
          · exact .pure trivial
          · exact .pure trivial

end Deletion

end Programs

end OvnOctavia
