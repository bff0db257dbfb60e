import OvnOctavia.Traffic

/-!
A member that is disabled and enabled again. Without a health check on its row the
member takes its place in the traffic map again; with one, the status the disabling
wrote is what the enabling goes by, and the member stays out.
-/

namespace OvnOctavia

/-- The entry of the traffic map at `k`, with the text `v`, has the member `d` of the pool
among its backends. -/
inductive MemberServed (env : Env) (off : Str → Bool) (e : Dict Str Str) (poolId : Str)
    (d : MemberData) : Str → Str → Prop
  | entry {id a : Str} {n : Nat} {ds : List MemberData} {version : IpVersion}
      (hup : e.get? enabledKey ≠ some (strBool false)) (hid : IsUuid id)
      (hlistener : e.get? (getListenerKey id true) =
        some (makeListenerKeyValue n (getPoolKey poolId true)))
      (hpoolId : IsUuid poolId) (hpool : e.get? (getPoolKey poolId true) = some (poolValue ds))
      (hds : ∀ d ∈ ds, d.WellFormed env) (hd : d ∈ takers env off version ds)
      (ha : a ∈ lbVips e ∨ version = .v4 ∧ a ∈ lbFips e)
      (hversion : env.ipVersion a = some version) :
      MemberServed env off e poolId d (addressPort (shown version a) (Str.ofNat n))
        (Str.join ',' ((takers env off version ds).map (backendText env)))

section Statuses
variable {env : Env} {e : Dict Str Str} {off off' : Str → Bool} {poolId k v : Str}
  {d : MemberData}

theorem MemberServed.carried (h : MemberServed env off e poolId d k v) : Carried env off e k v := by
  cases h with
  | @entry id a n ds version hup hid hlistener hpoolId hpool hds hd ha hversion =>
      exact ⟨hup, id, hid, .entry hlistener hpoolId hpool hds (List.ne_nil_of_mem hd) ha hversion⟩

theorem isOffline_set (statuses : Dict Str Str) (id status m : Str) :
    isOffline (statuses.set id status) m =
      if m = id then decide (status = OFFLINE) else isOffline statuses m := by
  rw [isOffline, Dict.get?_set]
  split
  · simp
  · rfl

theorem takers_off_length {version : IpVersion} {ds : List MemberData}
    (hle : ∀ m, off m = true → off' m = true) (hoff : off' d.id = true)
    (hd : d ∈ takers env off version ds) :
    (takers env off' version ds).length < (takers env off version ds).length := by
  have hsub : takers env off' version ds =
      (takers env off version ds).filter fun m => !off' m.id := by
    rw [takers, takers, List.filter_filter]
    refine List.filter_congr fun m _ => ?_
    cases ho' : off' m.id with
    | true => rfl
    | false =>
        have ho : off m.id = false := by
          rw [Bool.eq_false_iff]
          intro h
          rw [hle _ h] at ho'
          cases ho'
        simp [ho]
  rw [hsub]
  refine List.length_filter_lt_length_iff_exists.mpr ⟨d, hd, by simp [hoff]⟩

/-- The entry of a member does not stand without it. -/
theorem MemberServed.not_carried (hf : Framed env e) (h : MemberServed env off e poolId d k v)
    (hle : ∀ m, off m = true → off' m = true) (hoff : off' d.id = true) :
    ¬ Carried env off' e k v := by
  cases h with
  | @entry id a n ds version hup hid hlistener hpoolId hpool hds hd ha hversion =>
      rintro ⟨-, id', hid', hc⟩
      have hb : '[' ∉ a := (hf.addresses a (List.mem_append.mpr (ha.imp_right And.right))).2
      obtain ⟨hne, hv⟩ := hf.value_eq hid hid' hlistener hpoolId hpool hds hb hc
      have hcomma : ∀ off, ∀ s ∈ (takers env off version ds).map (backendText env), ',' ∉ s := by
        intro off s hs
        obtain ⟨m, hm, rfl⟩ := List.mem_map.mp hs
        exact comma_notMem_backendText (hds m (List.mem_of_mem_filter hm))
      have hsplit := congrArg (List.splitOn ',') hv
      rw [Str.splitOn_join (hcomma off) (by simpa using List.ne_nil_of_mem hd),
        Str.splitOn_join (hcomma off') (by simpa using hne)] at hsplit
      have hlt := takers_off_length hle hoff hd
      have hlen := congrArg List.length hsplit
      simp only [List.length_map] at hlen
      omega

/-- The traffic map of the keys with a status map of their own. -/
theorem Framed.withStatuses (hf : Framed env e) (statuses : Dict Str Str) :
    ∃ vips, frameVipIps env (withStatuses e statuses) (withStatuses e statuses) = .ok vips ∧
      ∀ k v, vips.get? k = some v ↔ Carried env (isOffline statuses) e k v := by
  have he : ∀ k, k ≠ ovnMemberStatusKey →
      (OvnOctavia.withStatuses e statuses).get? k = e.get? k :=
    fun k hk => Readable.get?_withStatuses hk e statuses
  obtain ⟨vips, hok, hiff⟩ := (hf.congr he).frame_iff (isOffline statuses)
  refine ⟨vips, ?_, fun k v => (hiff k v).trans (carried_congr he)⟩
  rw [frameVipIps_eq_off env (Readable.loadMemberStatuses_withStatuses e statuses), hok]

end Statuses

section Updates
variable {env : Env} {nb : Nb} {info : MemberInfo} {poolId : Str} {row : LoadBalancer}

/-- An update that takes the member out of the traffic or into it frames the row anew. -/
theorem handled_memberUpdate_toggled (info : MemberInfo) (hw : nb.WellFormed)
    (hp : info.poolId = some poolId)
    {key : Str} (hfound : nb.poolRow poolId = (key, some row)) (hf : Framed env row.externalIds)
    {statuses : Dict Str Str} (hs : loadMemberStatuses row.externalIds = .ok statuses) {up : Bool}
    (hup : info.adminStateUp = some up) {status : Str}
    (hstatus : status = updatedStatus row ((statuses.get? info.id).getD NO_MONITOR) up)
    (ht : IsToggled ((statuses.get? info.id).getD NO_MONITOR) status) :
    ∃ vips, handled env (.memberUpdate info) nb = nb.putLb { row with
        externalIds := withStatuses row.externalIds (statuses.set info.id status), vips } ∧
      ∀ k v, vips.get? k = some v ↔
        Carried env (isOffline (statuses.set info.id status)) row.externalIds k v := by
  obtain ⟨vips, hok, hiff⟩ := hf.withStatuses (statuses.set info.id status)
  rcases handled_memberUpdate env _ hw hp hfound hs hup rfl hstatus rfl with
    ⟨hn, -⟩ | ⟨-, ⟨⟨x, hx⟩, -⟩ | ⟨vips', hok', hout⟩⟩
  · exact absurd ht hn
  · cases hok.symm.trans hx
  · cases hok.symm.trans hok'
    exact ⟨vips, hout, hiff⟩

/-- What the row shows after the member was disabled and enabled again. -/
def PutsBack (env : Env) (info : MemberInfo) (poolId : Str) (d : MemberData) (row : LoadBalancer)
    (nb : Nb) : Prop :=
  let down := handled env (.memberUpdate { info with adminStateUp := some false }) nb
  let back := handled env (.memberUpdate { info with adminStateUp := some true }) down
  ∀ k v, MemberServed env (offlineIn row.externalIds) row.externalIds poolId d k v →
    row.vips.get? k = some v →
      ∃ row', back.lb? row.uuid = some row' ∧ row'.vips.get? k = some v

theorem putsBack_iff (hw : nb.WellFormed) {d : MemberData} (hp : info.poolId = some poolId)
    (hid : info.id = d.id) (hfound : nb.poolRow poolId = (getPoolKey poolId true, some row))
    (hf : Framed env row.externalIds)
    (hs : loadMemberStatuses row.externalIds = .ok (statusesIn row.externalIds))
    (hserved : ∃ k v, MemberServed env (offlineIn row.externalIds) row.externalIds poolId d k v ∧
      row.vips.get? k = some v) :
    PutsBack env info poolId d row nb ↔ row.healthCheck = [] := by
  have hget := hw.lb?_of_mem (Nb.poolRow_eq_some hfound).1
  obtain ⟨k, v, hkv, hvips⟩ := hserved
  have hon : isOffline (statusesIn row.externalIds) d.id = false := by
    cases hkv with
    | entry _ _ _ _ _ _ hd _ _ =>
        have := (List.mem_filter.mp hd).2
        simp only [Bool.and_eq_true, Bool.not_eq_true'] at this
        exact this.1
  have hlast : ((statusesIn row.externalIds).get? info.id).getD NO_MONITOR ≠ OFFLINE := by
    rw [hid]
    intro h
    cases hg : (statusesIn row.externalIds).get? d.id with
    | none => rw [hg] at h; exact absurd h (by decide)
    | some s =>
        rw [hg, Option.getD_some] at h
        rw [isOffline, hg, h] at hon
        simp at hon
  obtain ⟨vips₁, hdown, hiff₁⟩ := handled_memberUpdate_toggled
    { info with adminStateUp := some false } hw hp hfound hf hs rfl
    (show OFFLINE = _ from rfl) (.inl ⟨hlast, rfl⟩)
  simp only [PutsBack, hdown]
  -- the row while the member is disabled, as the second update finds it
  generalize hrow₁ : ({ row with
    externalIds := withStatuses row.externalIds ((statusesIn row.externalIds).set info.id OFFLINE)
    vips := vips₁ } : LoadBalancer) = row₁
  have hu : row₁.uuid = row.uuid := hrow₁ ▸ rfl
  have hhc : row₁.healthCheck = row.healthCheck := hrow₁ ▸ rfl
  have he : row₁.externalIds = withStatuses row.externalIds
    ((statusesIn row.externalIds).set info.id OFFLINE) := hrow₁ ▸ rfl
  have hkeep : ∀ j, j ≠ ovnMemberStatusKey →
      row₁.externalIds.get? j = row.externalIds.get? j := fun j hj => by
    rw [he, Readable.get?_withStatuses hj]
  have hget₁ : nb.lb? row₁.uuid = some row := hu ▸ hget
  have hput := Nb.lb?_putLb row₁ hget₁
  have hfound₁ := Nb.poolRow_putLb hw hfound hu (hkeep _ (by decide)) fun up => by
    rw [Dict.contains, Dict.contains, hkeep _ (Readable.withStatuses_ne (poolKey_notMem_base _ _))]
  have hst₁ : loadMemberStatuses row₁.externalIds =
      .ok ((statusesIn row.externalIds).set info.id OFFLINE) := by
    rw [he, Readable.loadMemberStatuses_withStatuses]
  have hlast₁ : (((statusesIn row.externalIds).set info.id OFFLINE).get? info.id).getD NO_MONITOR =
      OFFLINE := by
    rw [Dict.get?_set_self, Option.getD_some]
  constructor
  · intro hback
    by_contra hne
    have hstatus : updatedStatus row₁ OFFLINE true = OFFLINE := by
      rw [updatedStatus, if_pos rfl, hhc, if_pos hne]
    have hnt : ¬IsToggled OFFLINE (updatedStatus row₁ OFFLINE true) := by
      rw [hstatus]
      rintro (⟨h, -⟩ | ⟨-, h⟩)
      · exact h rfl
      · exact h rfl
    obtain ⟨row', hrow', hshown⟩ := hback k v hkv hvips
    rcases handled_memberUpdate env { info with adminStateUp := some true }
      (hw.putLb row₁) hp hfound₁ hst₁ rfl hlast₁.symm rfl rfl with ⟨-, hout⟩ | ⟨ht, -⟩
    · rw [hout, ← hu] at hrow'
      have hput' := Nb.lb?_putLb { row₁ with
        externalIds := withStatuses row₁.externalIds
          (((statusesIn row.externalIds).set info.id OFFLINE).set info.id
            (updatedStatus row₁ OFFLINE true)) } hput
      have hv : row'.vips = vips₁ := by
        rw [← Option.some.inj (hput'.symm.trans hrow'), ← hrow₁]
      rw [hv, hiff₁] at hshown
      refine hkv.not_carried hf (fun m hm => ?_) ?_ hshown
      · rw [isOffline_set]
        split
        · rfl
        · exact hm
      · rw [isOffline_set, if_pos hid.symm]
        rfl
    · exact absurd ht hnt
  · intro hnone k v hkv hvips
    have hstatus : NO_MONITOR = updatedStatus row₁
        ((((statusesIn row.externalIds).set info.id OFFLINE).get? info.id).getD NO_MONITOR)
        true := by
      rw [updatedStatus, if_pos rfl, hhc, hnone]
      rfl
    obtain ⟨vips₂, hback, hiff₂⟩ := handled_memberUpdate_toggled
      { info with adminStateUp := some true } (hw.putLb row₁) hp hfound₁
      (hf.congr hkeep) hst₁ rfl hstatus (.inr ⟨hlast₁, by decide⟩)
    have hput₂ := Nb.lb?_putLb { row₁ with
      externalIds := withStatuses row₁.externalIds
        (((statusesIn row.externalIds).set info.id OFFLINE).set info.id NO_MONITOR)
      vips := vips₂ } hput
    refine ⟨_, by rw [hback, ← hu]; exact hput₂, (hiff₂ k v).mpr ((carried_congr hkeep).mpr ?_)⟩
    have hoff : isOffline (((statusesIn row.externalIds).set info.id OFFLINE).set info.id
        NO_MONITOR) = offlineIn row.externalIds := by
      funext m
      rw [isOffline_set, isOffline_set]
      by_cases hm : m = info.id
      · rw [if_pos hm, hm, hid, offlineIn, hon]
        rfl
      · rw [if_neg hm, if_neg hm]
        rfl
    rw [hoff]
    exact hkv.carried

end Updates

section Example

/-- A database with the row of a load balancer that serves one member. -/
def exampleServingRow : LoadBalancer :=
  { uuid := 2, name := exampleId 'a', protocol := some .tcp
    vips := .single "10.0.0.2:80".toList "10.0.0.7:80".toList, externalIds := exampleServingKeys
    options := ∅, selectionFields := [], healthCheck := [], ipPortMappings := ∅ }

def exampleServingNb : Nb := { exampleNb with loadBalancers := [exampleServingRow], nextUuid := 3 }

theorem memberServed_example {e : Dict Str Str} {off : Str → Bool}
    (hup : e.get? enabledKey ≠ some (strBool false))
    (hlistener : e.get? (getListenerKey (exampleId 'b') true) =
      some (makeListenerKeyValue 80 (getPoolKey (exampleId 'c') true)))
    (hpool : e.get? (getPoolKey (exampleId 'c') true) = some (poolValue [exampleServer]))
    (hon : off exampleServer.id = false) (ha : "10.0.0.2".toList ∈ lbVips e) :
    MemberServed exampleEnv off e (exampleId 'c') exampleServer "10.0.0.2:80".toList
      "10.0.0.7:80".toList := by
  have htakers : takers exampleEnv off .v4 [exampleServer] = [exampleServer] := by
    rw [takers, List.filter_cons, hon]
    rfl
  have hentry := MemberServed.entry hup (isUuid_exampleId (by decide)) hlistener
    (isUuid_exampleId (by decide)) hpool (by simpa using wellFormed_exampleServer)
    (htakers ▸ List.mem_singleton_self _) (.inl ha) (by decide)
  rw [htakers] at hentry
  exact hentry

theorem putsBack_iff_example :
    PutsBack exampleEnv exampleServedMember (exampleId 'c') exampleServer exampleServingRow
      exampleServingNb ↔ exampleServingRow.healthCheck = [] :=
  putsBack_iff ⟨by decide, by decide⟩ rfl rfl (by decide +kernel) framed_exampleServingKeys
    (by decide +kernel)
    ⟨_, _, memberServed_example (by decide +kernel) (by decide +kernel) (by decide +kernel)
      (by decide +kernel) (by decide +kernel), by decide +kernel⟩

def exampleMonitoredRow : LoadBalancer :=
  (exampleMonitored.poolRow (exampleId 'c')).2.get (by decide +kernel)

/-- A member with a health monitor was served and is not served again. -/
theorem not_putsBack_exampleMonitored :
    exampleMonitored.poolRow (exampleId 'c') =
        (getPoolKey (exampleId 'c') true, some exampleMonitoredRow) ∧
      ¬ PutsBack exampleEnv exampleServedMember (exampleId 'c') exampleServer exampleMonitoredRow
        exampleMonitored := by
  refine ⟨by decide +kernel, fun h => ?_⟩
  obtain ⟨row', hrow', hv⟩ := h _ _ (memberServed_example (by decide +kernel) (by decide +kernel)
    (by decide +kernel) (by decide +kernel) (by decide +kernel)) (by decide +kernel)
  have hnone : ((handled exampleEnv (.memberUpdate { exampleServedMember with
      adminStateUp := some true }) (handled exampleEnv (.memberUpdate { exampleServedMember with
      adminStateUp := some false }) exampleMonitored)).lb? exampleMonitoredRow.uuid).map
        (fun row => row.vips.get? "10.0.0.2:80".toList) = some none := by decide +kernel
  rw [hrow', Option.map_some, hv] at hnone
  cases hnone

end Example

end OvnOctavia
