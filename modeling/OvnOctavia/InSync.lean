import OvnOctavia.ListedMembers

/-!
The traffic map of a row against its keys. A row is in sync when the map is the one that
its keys and its member statuses stand for. Every request on listeners, pools and members
keeps the rows in sync: it frames the map from the keys it commits, or changes nothing
that the map shows.
-/

namespace OvnOctavia

/-- The traffic map of the row is that of its keys. -/
def InSync (env : Env) (row : LoadBalancer) : Prop :=
  frameVipIps env row.externalIds row.externalIds = .ok row.vips

section Syncing
variable {env : Env} {h : History} {nb : Nb} {r : Request} {row row' row₁ row₂ : LoadBalancer}
  {e e' : Dict Str Str} {off off' : Str → Bool}

theorem InSync.content (hsync : InSync env row) (hread : Readable env row.externalIds)
    (hs : row.SameContent row') : InSync env row' := by
  rw [InSync, hread.frame_of_sameKeys hs.externalIds, hs.vips]
  exact hsync

/-- A traffic map framed from the keys that are committed. -/
theorem InSync.of_frame {vips : Dict Str Str} (hread : Readable env e')
    (hst : e'.get? ovnMemberStatusKey = e.get? ovnMemberStatusKey)
    (hf : frameVipIps env e e' = .ok vips)
    (hs : LoadBalancer.SameContent { row with externalIds := e', vips } row') :
    InSync env row' := by
  have hsync : InSync env { row with externalIds := e', vips } := by
    rw [InSync, frameVipIps_congr_row hst]
    exact hf
  exact hsync.content hread hs

theorem Source.inSync (hk : Kept env h nb) (hsync : ∀ row ∈ nb.lbsNamed h.lbId, InSync env row)
    (hs : Source env nb h r row) (hread : Readable env row.externalIds) : InSync env row := by
  cases hs with
  | present hold hs => exact (hsync _ hold).content (hk.readable _ hold) hs
  | provided hfirst hup hvip he hv hc hs =>
      have hkeys : ∀ k ∈ row.externalIds.keys, k ∈ baseKeys := by
        intro k hm
        by_contra hb
        rw [Table.mem_keys_of_sameKeys hs.externalIds hb, he] at hm
        exact hb (Table.addVipKeys_base _ (Table.baseExternalIds_base _ _ _) k hm)
      rw [InSync, hread.frame_eq, frameBy_of_base hkeys, hs.vips, hv]

/-- The row with another status map is in sync when the map of its keys and these statuses
is the one it has. -/
theorem inSync_record (hread : Readable env row.externalIds) (member : Str) (status : Option Str)
    (vips : Dict Str Str) : InSync env { row.record member status with vips } ↔
      frameBy env (backendsOff env
        (isOffline (withStatus (statusesIn row.externalIds) member status))) row.externalIds =
          .ok vips := by
  rw [← hread.frame_withStatuses]
  rfl

/-- A member that is listed and out of the traffic adds nothing. -/
theorem frameBy_appended (hr : Readable env e) {x : Str} {b : Bool} {ds : List MemberData}
    {d : MemberData} (hx : IsUuid x) (hv : e.get? (getPoolKey x b) = some (poolValue ds))
    (hds : ∀ a ∈ ds, a.WellFormed env) (hd : d.WellFormed env) (hoff : off' d.id = true)
    (hsame : ∀ id up ds, IsUuid id → e.get? (getPoolKey id up) = some (poolValue ds) →
      (∀ a ∈ ds, a.WellFormed env) → ∀ a ∈ ds, off a.id = off' a.id) :
    frameBy env (backendsOff env off') (e.set (getPoolKey x b) (poolValue (ds ++ [d]))) =
      frameBy env (backendsOff env off) e := by
  rw [hr.frameBy_off_congr hsame]
  have hvalue : IsPoolValue env (poolValue (ds ++ [d])) := by
    refine ⟨ds ++ [d], rfl, fun a ha => ?_⟩
    rcases List.mem_append.mp ha with ha | ha
    · exact hds a ha
    · exact (List.mem_singleton.mp ha).symm ▸ hd
  have hother : getPoolKey x (!b) ∉ e.keys := by
    have hsole := hr.sole x hx
    have hm := mem_keys_of_get? hv
    cases b with
    | true => exact hsole hm
    | false => exact fun ht => hsole ht hm
  refine (hr.frameBy_eq (Readable.sameBase_set (poolKey_notMem_base x b) _).addresses
    (serving_set (not_serving_poolKey hx b)).symm fun id n t _ hg ht => ⟨t, ?_, ?_⟩).symm
  · rw [Dict.get?_set_of_ne _ _ (listenerKey_ne_poolKey id x true b), hg]
  · by_cases hkey : t = getPoolKey x b ∧ b = true
    · obtain ⟨rfl, rfl⟩ := hkey
      rw [target_poolKey hx, target_poolKey hx, hv, Dict.get?_set_self, Option.getD_some,
        Option.getD_some, backendsOff_append hds hd hoff]
    · rw [hr.target_congr (hr.set_pool hx hother hvalue) ht fun y hy he => ?_]
      rw [he, Dict.get?_set_of_ne]
      intro hyx
      obtain ⟨rfl, rfl⟩ := getPoolKey_inj hy hx hyx
      exact hkey ⟨he, rfl⟩

section Created
variable {info : MemberInfo} {poolId value : Str} {b : Bool} {d : MemberData}

/-- The id of a new member is in no pool and has no status. -/
theorem Listed.notMem_of_fresh (hl : Listed env h e) (hd : h.MembersDistinct) {id : Str}
    (hf : id ∉ h.taken) {x : Str} {up : Bool} {ds : List MemberData} (hx : IsUuid x)
    (hg : e.get? (getPoolKey x up) = some (poolValue ds)) (hds : ∀ a ∈ ds, a.WellFormed env)
    {a : MemberData} (ha : a ∈ ds) : a.id ≠ id := by
  rintro rfl
  obtain ⟨m, hm, hid, -⟩ := (hl.made x up ds hx hg hds).2 a ha
  exact hf (hid ▸ hd.taken m hm)

theorem isOffline_withStatus (statuses : Dict Str Str) (id s m : Str) :
    isOffline (withStatus statuses id (some s)) m =
      if m = id then decide (s = OFFLINE) else isOffline statuses m := by
  rw [isOffline, withStatus, Dict.get?_set]
  split
  · simp
  · rfl

theorem isOffline_withoutStatus (statuses : Dict Str Str) {id m : Str} (hne : m ≠ id) :
    isOffline (withStatus statuses id none) m = isOffline statuses m := by
  rw [isOffline, withStatus, Dict.get?_erase_of_ne _ hne]
  rfl

/-- A new member is framed when it is up; when it is down its status keeps it out. -/
theorem InSync.memberCreated (hsync : InSync env row) (hread : Readable env row.externalIds)
    (hl : Listed env h row.externalIds) (hd : h.MembersDistinct) (hf : info.id ∉ h.taken)
    (hid : IsUuid poolId) (hdesc : info.Describes d) (hwf : d.WellFormed env)
    (hv : row.externalIds.get? (getPoolKey poolId b) = some value)
    (hadd : AddsMember env info (getPoolKey poolId b) value row row₁) (hs : row₁.SameContent row₂)
    {up : Bool} {status : Str} (hup : info.adminStateUp = some up)
    (hstatus : up = false ↔ status = OFFLINE) :
    InSync env (row₂.record info.id (some status)) := by
  obtain ⟨ds, rfl, hds⟩ := hread.pool poolId b value hid hv
  have hfresh := fun x up ds hx hg hds (a : MemberData) ha =>
    @Listed.notMem_of_fresh _ _ _ hl hd _ hf x up ds hx hg hds a ha
  rcases hadd with ⟨text, hi, hm, -⟩ | ⟨text, vips, hi, hm, hframe, rfl⟩
  · cases hdesc.text.symm.trans hi
    rw [poolItems_poolValue hds] at hm
    obtain ⟨a, ha, he⟩ := List.mem_map.mp hm
    obtain rfl := MemberData.text_inj (hds a ha) hwf he
    exact absurd hdesc.1.symm (hfresh poolId b ds hid hv hds a ha)
  · cases hdesc.text.symm.trans hi
    have hother := Kept.otherKey_notMem hread hid hv
    have hread₁ := hread.set_pool hid hother (Kept.isPoolValue_append ⟨ds, rfl, hds⟩ hwf)
    rw [poolValue_append hds] at hframe hs hread₁
    have hstatuses : statusesIn row₂.externalIds = statusesIn row.externalIds :=
      (Readable.statusesIn_of_sameKeys hs.externalIds).trans
        (statusesIn_congr (Readable.sameBase_set (poolKey_notMem_base poolId b) _).status)
    have hnone : isOffline (statusesIn row.externalIds) info.id = false := by
      have hget := (Dict.get?_eq_none_iff _ _).mpr fun hm => hf (hl.statuses _ hm)
      simp [isOffline, hget]
    have hgoal := inSync_record (hread₁.of_sameKeys hs.externalIds) info.id (some status) row₂.vips
    refine hgoal.mpr ?_
    rw [hstatuses, hread₁.frameBy_of_sameKeys hs.externalIds, hs.vips]
    cases up with
    | true =>
        rw [if_pos hup, hread.frame_eq] at hframe
        have hoff : isOffline (withStatus (statusesIn row.externalIds) info.id (some status)) =
            offlineIn row.externalIds := by
          funext m
          rw [isOffline_withStatus, offlineIn]
          split
          · next hm =>
              have hne : status ≠ OFFLINE := fun he => Bool.noConfusion (hstatus.mpr he)
              rw [hm, hnone, decide_eq_false hne]
          · rfl
        rw [hoff]
        exact hframe
    | false =>
        rw [hup, if_neg (by simp), Except.ok.injEq] at hframe
        have hoffline := hstatus.mp rfl
        rw [@frameBy_appended _ _ (offlineIn row.externalIds) _ hread _ _ _ _ hid hv hds hwf ?_ ?_,
          ← hread.frame_eq, hsync, hframe]
        · rw [isOffline_withStatus, if_pos hdesc.1.symm, decide_eq_true hoffline]
        · intro x up ds hx hg hds a ha
          rw [isOffline_withStatus, if_neg (hfresh x up ds hx hg hds a ha)]
          rfl

end Created

section Deleted
variable {info : MemberInfo} {poolId value : Str} {b : Bool} {d : MemberData}

/-- A member that is removed takes its status along, which no member left has. -/
theorem InSync.memberDeleted (hsync : InSync env row) (hread : Readable env row.externalIds)
    (hmon : row.healthCheck = []) (hl : Listed env h row.externalIds) (hd : h.MembersDistinct)
    (hmade : h.Made poolId d) (hid : IsUuid poolId) (hdesc : info.Describes d)
    (hwf : d.WellFormed env) (hv : row.externalIds.get? (getPoolKey poolId b) = some value)
    (hrem : RemovesMember env nb info (getPoolKey poolId b) value row row₁)
    (hs : row₁.SameContent row₂) : InSync env (row₂.record info.id none) := by
  obtain ⟨ds, rfl, hds⟩ := hread.pool poolId b value hid hv
  -- another member with the id would have been created as this one
  have hsame : ∀ x up ds, IsUuid x → row.externalIds.get? (getPoolKey x up) =
      some (poolValue ds) → (∀ a ∈ ds, a.WellFormed env) → ∀ a ∈ ds, a.id = info.id →
        x = poolId ∧ a = d := fun x up ds hx hg hds a ha he =>
    hd.eq ((hl.made x up ds hx hg hds).2 a ha) hmade (he.trans hdesc.1)
  rcases hrem with ⟨rfl, habsent⟩ | ⟨text, row₀, vips, hi, hm, hc, hframe, rfl⟩
  · have hnot : d ∉ ds := by
      rcases habsent with ⟨text, hi, hm⟩ | ⟨hne, -⟩
      · cases hdesc.text.symm.trans hi
        rwa [mem_splitOn_poolValue hds hwf] at hm
      · exact absurd hmon hne
    have hread₂ := hread.of_sameKeys hs.externalIds
    refine (inSync_record hread₂ info.id none row₂.vips).mpr ?_
    rw [hread.frameBy_of_sameKeys hs.externalIds, Readable.statusesIn_of_sameKeys hs.externalIds,
      hs.vips, ← (hsync : frameVipIps env _ _ = _), hread.frame_eq]
    refine hread.frameBy_off_congr fun x up ds' hx hg hds' a ha => ?_
    refine isOffline_withoutStatus _ fun he => ?_
    obtain ⟨rfl, rfl⟩ := hsame x up ds' hx hg hds' a ha he
    have hup : up = b := by
      have hother := Kept.otherKey_notMem hread hid hv
      cases up <;> cases b
      · rfl
      · exact absurd (mem_keys_of_get? hg) hother
      · exact absurd (mem_keys_of_get? hg) hother
      · rfl
    rw [hup, hv, Option.some.injEq] at hg
    exact hnot (poolValue_inj hds hds' hg ▸ ha)
  · cases hdesc.text.symm.trans hi
    have hmem := (mem_splitOn_poolValue hds hwf).mp hm
    have hother := Kept.otherKey_notMem hread hid hv
    rw [poolValue_erase hds hwf hmem] at hframe hs
    have hvalue : IsPoolValue env (poolValue (ds.erase d)) :=
      ⟨ds.erase d, rfl, fun a ha => hds a (List.mem_of_mem_erase ha)⟩
    have hread₀ := hread.of_sameKeys hc.externalIds
    have hother₀ : getPoolKey poolId (!b) ∉ row₀.externalIds.keys := by
      rwa [Table.mem_keys_of_sameKeys hc.externalIds (poolKey_notMem_base _ _)]
    have hread₁ := hread₀.set_pool hid hother₀ hvalue
    have hframed := hread.set_pool hid hother hvalue
    have hstatuses : statusesIn row₂.externalIds = statusesIn row.externalIds :=
      ((Readable.statusesIn_of_sameKeys hs.externalIds).trans
        (statusesIn_congr (Readable.sameBase_set (poolKey_notMem_base poolId b) _).status)).trans
          (Readable.statusesIn_of_sameKeys hc.externalIds)
    have hkeys := hc.externalIds.set_both (poolValue (ds.erase d))
      (Table.notMem_peripheralKeys (poolKey_notMem_base poolId b))
    refine (inSync_record (hread₁.of_sameKeys hs.externalIds) info.id none row₂.vips).mpr ?_
    rw [hread₁.frameBy_of_sameKeys hs.externalIds, hframed.frameBy_of_sameKeys hkeys, hstatuses,
      hs.vips, ← hframe, hread₀.frame_eq, offlineIn, Readable.statusesIn_of_sameKeys hc.externalIds]
    refine hframed.frameBy_off_congr fun x up ds' hx hg hds' a ha => ?_
    refine isOffline_withoutStatus _ fun he => ?_
    rw [Dict.get?_set] at hg
    split at hg
    · next hkey =>
        obtain ⟨rfl, rfl⟩ := getPoolKey_inj hx hid hkey
        rw [Option.some.injEq] at hg
        obtain rfl := poolValue_inj (fun a ha => hds a (List.mem_of_mem_erase ha)) hds' hg
        obtain ⟨hn, -⟩ := hl.made x up ds hx hv hds
        obtain ⟨-, rfl⟩ := hsame x up ds hx hv hds a (List.mem_of_mem_erase ha) he
        exact hn.not_mem_erase ha
    · next hkey =>
        obtain ⟨rfl, rfl⟩ := hsame x up ds' hx hg hds' a ha he
        have hup : up = b := by
          cases up <;> cases b
          · rfl
          · exact absurd (mem_keys_of_get? hg) hother
          · exact absurd (mem_keys_of_get? hg) hother
          · rfl
        exact hkey (by rw [hup])

end Deleted

/-- Only a change that takes the member out of the traffic or into it counts. -/
theorem InSync.memberUpdated (hsync : InSync env row) (hread : Readable env row.externalIds)
    {id lastStatus status : Str} {vips : Dict Str Str}
    (hlast : lastStatus = ((statusesIn row.externalIds).get? id).getD NO_MONITOR)
    (hvips : ¬IsToggled lastStatus status ∧ vips = row.vips ∨
      frameVipIps env (row.record id (some status)).externalIds
        (row.record id (some status)).externalIds = .ok vips) :
    InSync env { row.record id (some status) with vips } := by
  rcases hvips with ⟨hsame, rfl⟩ | hframe
  · refine (inSync_record hread id (some status) row.vips).mpr ?_
    have hoff : isOffline (withStatus (statusesIn row.externalIds) id (some status)) =
        offlineIn row.externalIds := by
      funext m
      rw [isOffline_withStatus, offlineIn]
      split
      · next hm =>
          rw [IsToggled, not_or, not_and, not_and, not_not] at hsame
          have hne : NO_MONITOR ≠ OFFLINE := by decide
          rw [hm, isOffline]
          cases hg : (statusesIn row.externalIds).get? id with
          | none =>
              rw [hg, Option.getD_none] at hlast
              have hs := hsame.1 (hlast ▸ hne)
              simp [hs]
          | some s =>
              rw [hg, Option.getD_some] at hlast
              subst hlast
              by_cases hl : lastStatus = OFFLINE
              · simp [hl, hsame.2 hl]
              · simp [hl, hsame.1 hl]
      · rfl
    rw [hoff, ← hread.frame_eq]
    exact hsync
  · exact hframe

/-- Every request leaves the rows in sync. -/
theorem Effect.inSync (hk : Kept env h nb) (hd : h.MembersDistinct) (hr : IsLbRequest env h r)
    (ho : h.IsOrderly r) (hs : Source env nb h r row) (hread : Readable env row.externalIds)
    (hmon : row.healthCheck = []) (hn : Named h row.externalIds)
    (hl : Listed env h row.externalIds) (hsync : InSync env row) (he : Effect env nb r row row') :
    InSync env row' := by
  cases he with
  | spared h hs => exact hsync.content hread hs
  | listenerCreated hup hf hs =>
      obtain ⟨-, hid, -⟩ := hr
      exact .of_frame (hread.set_listener hid _ (isListenerValue_make _ (defaultPoolKey_cases _)))
        (Readable.sameBase_set (listenerKey_notMem_base _ _) _).status hf hs
  | listenerDeleted hf hs =>
      exact .of_frame (hread.erase (listenerKey_notMem_base _ true))
        (Readable.sameBase_erase (listenerKey_notMem_base _ _)).status hf hs
  | @listenerUpdated info key value vips _ _ hkey hv hf hs =>
      obtain ⟨up, rfl, -⟩ := Table.presentListenerKey_eq hkey
      exact .of_frame (hread.updatedListenerKeys hr.2.1 rfl hv)
        (status_updatedListenerKeys hv) hf hs
  | @poolCreated info up _ _ hup hsame =>
      obtain ⟨-, hid, hfresh, hlis⟩ := hr
      have hnew := hk.notMem_of_fresh hid hfresh hs
      refine InSync.content ?_ (hread.poolCreateExternalIds hid hlis (hnew _)) hsame
      rw [InSync, hread.frame_poolCreated hid hlis hnew fun l n t hl ht => ?_]
      · exact hsync
      · rcases hread.target_cases (hread.listener_target (hlis l hl) ht) with hnone |
          ⟨x, v, hx, rfl, hg, -⟩
        · exact hnone
        · -- a pool that the listener serves would be its pool, and so the new one
          rcases hn.pool l true n x (hlis l hl) hx ht with hname | ⟨-, hno⟩
          · obtain rfl := ho l x hl hname
            exact absurd (mem_keys_of_get? hg) (hnew true)
          · exact absurd (mem_keys_of_get? hg) (hno true)
  | @poolDeleted info vips _ _ hf hsame =>
      have hid := hk.isUuid_of_pool hr.2
      refine InSync.content ?_ (hread.poolDeletedKeys info.id) hsame
      rw [InSync, hread.frame_poolDeleted hid]
      by_cases hc : row.externalIds.contains (getPoolKey info.id true) = true
      · rw [if_pos hc] at hf
        rw [frameVipIps_congr_row (Readable.sameBase_erase (poolKey_notMem_base _ _)).status]
        exact hf
      · rw [if_neg hc] at hf
        rw [Dict.contains_iff] at hc
        rw [Dict.erase_of_notMem hc]
        exact hsync.trans hf
  | @poolUpdated info up vips _ _ hup hf hsame =>
      refine InSync.content ?_ (hread.movedPoolKeys hr.2 up) hsame
      cases hfrom : row.externalIds.get? (getPoolKey info.id (!up)) with
      | none =>
          have hc : row.externalIds.contains (getPoolKey info.id (!up)) = false := by
            rw [Dict.contains, hfrom]
            rfl
          rw [hc, if_neg Bool.false_ne_true, Except.ok.injEq] at hf
          rw [InSync, movedPoolKeys_of_none hfrom, ← hf]
          exact hsync
      | some w =>
          have hc : row.externalIds.contains (getPoolKey info.id (!up)) = true := by
            rw [Dict.contains, hfrom]
            rfl
          rw [if_pos hc] at hf
          rw [InSync, frameVipIps_congr_row]
          · exact hf
          · exact get?_movedPoolKeys_of_ne (Readable.withStatuses_ne (poolKey_notMem_base _ _)).symm
              (Readable.withStatuses_ne (poolKey_notMem_base _ _)).symm _
  | memberCreated hp hv hadd hsame hst =>
      obtain ⟨poolId, p, d, hp', hpool, hdesc, hwf, -⟩ := hr
      cases hp'.symm.trans hp
      rcases hst with ⟨-, -, hne⟩ | ⟨up, status, hup, hstatus, rfl⟩
      · exact absurd hmon hne
      · exact hsync.memberCreated hread hl hd ho (hk.isUuid_of_pool hpool) hdesc hwf hv hadd hsame
          hup hstatus
  | memberDeleted hp hv hrem hsame hst =>
      obtain ⟨poolId, p, d, hp', hpool, hdesc, hwf⟩ := hr
      cases hp'.symm.trans hp
      obtain ⟨poolId', d', hp'', hdesc', hmade⟩ := ho
      cases hp'.symm.trans hp''
      cases hdesc.eq hdesc'
      rw [hst]
      exact hsync.memberDeleted hread hmon hl hd hmade (hk.isUuid_of_pool hpool) hdesc hwf hv hrem
        hsame
  | memberUpdated hp hkey hup hlast hstatus hvips hrow =>
      rw [hrow]
      exact hsync.memberUpdated hread hlast hvips

end Syncing

section Runs
variable {env env' : Env} {h : History} {nb : Nb} {r : Request}

/-- What the requests keep of the rows of a load balancer without health checks. -/
structure Synced (env : Env) (h : History) (nb : Nb) : Prop where
  kept : Kept env h nb
  distinct : h.MembersDistinct
  unmonitored : ∀ row ∈ nb.lbsNamed h.lbId, row.healthCheck = []
  named : ∀ row ∈ nb.lbsNamed h.lbId, Named h row.externalIds
  listed : ∀ row ∈ nb.lbsNamed h.lbId, Listed env h row.externalIds
  inSync : ∀ row ∈ nb.lbsNamed h.lbId, InSync env row

namespace Synced

theorem step (hs : Synced env h nb) (ht : env.TellsAddresses) (hr : IsLbRequest env h r)
    (ho : h.IsOrderly r) : Synced env (h.next r) (handled env r nb) := by
  have hk := hs.kept
  have hkept := hk.next ht hr
  -- each row comes from one that has it all
  have heach : ∀ row ∈ (handled env r nb).lbsNamed (h.next r).lbId, row.healthCheck = [] ∧
      Named (h.next r) row.externalIds ∧ Listed env (h.next r) row.externalIds ∧
        InSync env row := by
    intro row' hrow'
    rw [History.lbId_next] at hrow'
    obtain ⟨row, hsrc, heff⟩ := hk.effect hr hrow'
    have hread := hk.readable_of_source ht hsrc
    have hmon := hsrc.unmonitored hs.unmonitored
    have hn := hsrc.named hs.named
    have hl := hsrc.listed hs.listed
    exact ⟨heff.unmonitored hmon, heff.named hk hr ho hsrc hread hn,
      heff.listed hk hs.distinct hr ho hread hl, heff.inSync hk hs.distinct hr ho hsrc hread hmon
        hn hl (hsrc.inSync hk hs.inSync hread)⟩
  exact ⟨hkept, hs.distinct.next ho, fun row hrow => (heach row hrow).1,
    fun row hrow => (heach row hrow).2.1, fun row hrow => (heach row hrow).2.2.1,
    fun row hrow => (heach row hrow).2.2.2⟩

theorem congr (hs : Synced env h nb) (hv : env'.ipVersion = env.ipVersion) :
    Synced env' h nb where
  kept := hs.kept.congr hv
  distinct := hs.distinct
  unmonitored := hs.unmonitored
  named := hs.named
  listed := by
    intro row hrow
    obtain ⟨hst, hmade⟩ := hs.listed row hrow
    exact ⟨hst, fun x up ds hx hg hds => hmade x up ds hx hg fun d hd => (hds d hd).congr hv.symm⟩
  inSync := by
    intro row hrow
    rw [InSync, frameVipIps_env hv]
    exact hs.inSync row hrow

end Synced

/-- One request on listeners, pools or members that goes through. Neutron and Octavia may
change from one request to the next; what an address is does not. -/
inductive SyncStep (env : Env) : History × Nb → History × Nb → Prop
  | request {s : History × Nb} {env' : Env} {r : Request}
      (hv : env'.ipVersion = env.ipVersion) (ht : env'.TellsAddresses)
      (hr : IsLbRequest env' s.1 r) (ho : s.1.IsOrderly r) :
      SyncStep env s (s.1.next r, handled env' r s.2)

theorem Synced.keeps {s s' : History × Nb} (hstep : SyncStep env s s')
    (hs : Synced env s.1 s.2) : Synced env s'.1 s'.2 := by
  cases hstep with
  | request hv ht hr ho => exact ((hs.congr hv).step ht hr ho).congr hv.symm

theorem Synced.keeps_run {s s' : History × Nb} (hrun : Relation.ReflTransGen (SyncStep env) s s')
    (hs : Synced env s.1 s.2) : Synced env s'.1 s'.2 := by
  induction hrun with
  | refl => exact hs
  | tail _ hstep ih => exact ih.keeps hstep

variable {info : LoadBalancerInfo} {nb₀ nb₁ : Nb} {operatingStatus : Str} {taken : List Str}

theorem Synced.start (hw : nb₀.WellFormed) (hnone : nb₀.lbsNamed info.id = [])
    (ha : info.Addressed env)
    (htaken : ∀ row ∈ nb₀.loadBalancers, ∀ id up, IsUuid id →
      getPoolKey id up ∈ row.externalIds.keys → id ∈ taken)
    (hcreate : (lbCreate env info none).run Nb.apply nb₀ =
      (.ok (lbStatusOf info.id ACTIVE operatingStatus), nb₁)) :
    Synced env (History.new info.id taken) nb₁ := by
  have he := Enrolled.start hw hnone ha htaken hcreate
  have hk := he.kept
  obtain ⟨vip, vipPortId, up, fields, -, -, -, hs⟩ := lbCreate_active hcreate
  obtain ⟨new, hnew, hvips, -, hrows⟩ := lbsNamed_createLb_of_nil hnone
    (addVipKeys info (baseExternalIds vip vipPortId up)) fields
  have hbase : ∀ row ∈ nb₁.lbsNamed info.id, (∀ k ∈ row.externalIds.keys, k ∈ baseKeys) ∧
      ovnMemberStatusKey ∉ row.externalIds.keys ∧ row.vips = ∅ := by
    intro row hm
    obtain ⟨row₁, hrow₁, hsame⟩ := hs.exists_of_mem_named hm
    rw [hrows] at hrow₁
    obtain rfl := List.mem_singleton.mp hrow₁
    have hkeys := Table.addVipKeys_base info (Table.baseExternalIds_base vip vipPortId up)
    refine ⟨fun k hk => ?_, ?_, hsame.vips.trans hvips⟩
    · by_contra hb
      rw [Table.mem_keys_of_sameKeys hsame.externalIds hb, hnew] at hk
      exact hb (hkeys k hk)
    · rw [← Dict.get?_eq_none_iff, hsame.externalIds.get? _ (by decide), hnew]
      exact get?_addVipKeys_status
  refine ⟨hk, ⟨List.nodup_nil, nofun⟩, he.unmonitored, fun row hrow => .of_base (hbase row hrow).1,
    fun row hrow => .of_base (hbase row hrow).1 (hbase row hrow).2.1, fun row hrow => ?_⟩
  rw [InSync, (hk.readable row hrow).frame_eq, frameBy_of_base (hbase row hrow).1,
    (hbase row hrow).2.2]

/-- After every request the traffic map of every row is that of its keys. -/
theorem inSync_of_run (hw : nb₀.WellFormed) (hnone : nb₀.lbsNamed info.id = [])
    (ha : info.Addressed env)
    (htaken : ∀ row ∈ nb₀.loadBalancers, ∀ id up, IsUuid id →
      getPoolKey id up ∈ row.externalIds.keys → id ∈ taken)
    (hcreate : (lbCreate env info none).run Nb.apply nb₀ =
      (.ok (lbStatusOf info.id ACTIVE operatingStatus), nb₁))
    (hrun : Relation.ReflTransGen (SyncStep env) (History.new info.id taken, nb₁) (h, nb)) :
    ∀ row ∈ nb.lbsNamed h.lbId,
      frameVipIps env row.externalIds row.externalIds = .ok row.vips :=
  (Synced.keeps_run hrun (.start hw hnone ha htaken hcreate)).inSync

theorem inSync_of_run_example : ∃ row, exampleServing.lbsNamed exampleLb.id = [row] ∧
    row.vips.items = [("10.0.0.2:80".toList, "10.0.0.7:80".toList)] ∧
    frameVipIps exampleEnv row.externalIds row.externalIds = .ok row.vips := by
  have ht : exampleEnv.TellsAddresses := by
    intro id lb hlb v hv
    cases hlb
    cases hv
  have ha : exampleLb.Addressed exampleEnv :=
    ⟨by rintro a ⟨⟩; decide, nofun, nofun, nofun⟩
  have hlistener : IsLbRequest exampleEnv (History.new exampleLb.id [])
      (.listenerCreate exampleListener) :=
    ⟨rfl, isUuid_exampleId (by decide), List.not_mem_nil⟩
  have hpool : IsLbRequest exampleEnv ((History.new exampleLb.id []).next
      (.listenerCreate exampleListener)) (.poolCreate exampleServedPool) := by
    refine ⟨rfl, isUuid_exampleId (by decide), by decide, ?_⟩
    rintro l ⟨⟩
    exact isUuid_exampleId (by decide)
  have horderly : ((History.new exampleLb.id []).next
      (.listenerCreate exampleListener)).IsOrderly (.poolCreate exampleServedPool) := by
    rintro l x ⟨⟩ ⟨a, ha, -, hx⟩
    obtain rfl := List.mem_singleton.mp ha
    cases hx
  have hmember : IsLbRequest exampleEnv (((History.new exampleLb.id []).next
      (.listenerCreate exampleListener)).next (.poolCreate exampleServedPool))
      (.memberCreate exampleServedMember) :=
    ⟨_, .tcp, _, rfl, ⟨_, List.mem_singleton_self _, rfl, rfl⟩, ⟨rfl, rfl, rfl, rfl⟩,
      wellFormed_exampleServer, rfl⟩
  have hfresh : (((History.new exampleLb.id []).next (.listenerCreate exampleListener)).next
      (.poolCreate exampleServedPool)).IsOrderly (.memberCreate exampleServedMember) :=
    show exampleServedMember.id ∉ _ by decide
  have hrun : Relation.ReflTransGen (SyncStep exampleEnv)
      (History.new exampleLb.id [], exampleCreated)
      ((((History.new exampleLb.id []).next (.listenerCreate exampleListener)).next
        (.poolCreate exampleServedPool)).next (.memberCreate exampleServedMember),
        exampleServing) :=
    ((Relation.ReflTransGen.single (.request rfl ht hlistener trivial)).tail
      (.request rfl ht hpool horderly)).tail (.request rfl ht hmember hfresh)
  have hsync := inSync_of_run wellFormed_exampleNb rfl ha nofun run_exampleLb hrun
  obtain ⟨row, hrow⟩ : ∃ row, exampleServing.lbsNamed exampleLb.id = [row] := ⟨_, rfl⟩
  have hvips : (exampleServing.lbsNamed exampleLb.id).map (·.vips.items) =
      [[("10.0.0.2:80".toList, "10.0.0.7:80".toList)]] := by decide +kernel
  rw [hrow, List.map_singleton, List.singleton_inj] at hvips
  exact ⟨row, hrow, hvips, hsync row (hrow ▸ List.mem_singleton_self row)⟩

end Runs

end OvnOctavia
