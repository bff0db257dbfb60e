import OvnOctavia.KeptRuns

/-!
The members of each pool as Octavia knows them, in the order they were created, and
the pool values that encode them. Every request changes the pool values as it changes
these lists, under whichever of its two keys a pool is.
-/

namespace OvnOctavia

/-- A member comes last, unless it is there already. -/
def enrol (ds : List MemberData) (d : MemberData) : List MemberData :=
  if d ∈ ds then ds else ds ++ [d]

theorem nodup_enrol {ds : List MemberData} (hn : ds.Nodup) (d : MemberData) :
    (enrol ds d).Nodup := by
  unfold enrol
  split
  · exact hn
  · next hd =>
      rw [List.nodup_append]
      refine ⟨hn, List.nodup_singleton d, fun a ha b hb hab => ?_⟩
      rw [List.mem_singleton.mp hb] at hab
      exact hd (hab ▸ ha)

theorem mem_enrol {ds : List MemberData} {a d : MemberData} (ha : a ∈ enrol ds d) :
    a ∈ ds ∨ a = d := by
  unfold enrol at ha
  split at ha
  · exact .inl ha
  · exact (List.mem_append.mp ha).imp_right List.mem_singleton.mp

section Values
variable {env : Env} {lbId x value : Str} {nb nb' : Nb} {row new : LoadBalancer}

/-- A row of the load balancer has the pool, enabled or disabled, with the value. -/
def Nb.PoolHas (nb : Nb) (lbId x value : Str) : Prop :=
  ∃ row ∈ nb.lbsNamed lbId, ∃ up, row.externalIds.get? (getPoolKey x up) = some value

theorem Nb.PoolHas.same (hw : nb.WellFormed) (h : nb.PoolHas lbId x value)
    (hs : nb.SameObjects nb') : nb'.PoolHas lbId x value := by
  obtain ⟨row, hrow, up, hv⟩ := h
  obtain ⟨hm, hn⟩ := Nb.mem_lbsNamed.mp hrow
  obtain ⟨row', hrow', hsame⟩ := hs.lb? (hw.lb?_of_mem hm)
  refine ⟨row', Nb.mem_lbsNamed.mpr ⟨(Nb.lb?_eq_some hrow').1, hsame.name.trans hn⟩, up, ?_⟩
  rw [samePools_of_sameKeys hsame.externalIds x up, hv]

theorem Nb.PoolHas.putLb (hw : nb.WellFormed) (h : nb.PoolHas lbId x value)
    (hget : nb.lb? new.uuid = some row) (hn : new.name = row.name)
    (hkeep : ∀ up, row.externalIds.get? (getPoolKey x up) = some value →
      ∃ up', new.externalIds.get? (getPoolKey x up') = some value) :
    (nb.putLb new).PoolHas lbId x value := by
  obtain ⟨old, hold, up, hv⟩ := h
  obtain ⟨hm, hname⟩ := Nb.mem_lbsNamed.mp hold
  by_cases hu : old.uuid = new.uuid
  · obtain ⟨hmrow, hurow⟩ := Nb.lb?_eq_some hget
    obtain rfl := hw.eq_of_uuid hm hmrow (hu.trans hurow.symm)
    exact ⟨new, Nb.mem_lbsNamed.mpr ⟨(Nb.mem_putLb hget).mpr (.inl rfl), hn.trans hname⟩,
      hkeep up hv⟩
  · exact ⟨old, Nb.mem_lbsNamed.mpr ⟨(Nb.mem_putLb hget).mpr (.inr ⟨hm, hu⟩), hname⟩, up, hv⟩

theorem Nb.PoolHas.of_putLb (hget : nb.lb? new.uuid = some row) (hn : new.name = lbId) {up : Bool}
    (hv : new.externalIds.get? (getPoolKey x up) = some value) :
    (nb.putLb new).PoolHas lbId x value :=
  ⟨new, Nb.mem_lbsNamed.mpr ⟨(Nb.mem_putLb hget).mpr (.inl rfl), hn⟩, up, hv⟩

theorem Nb.PoolHas.deleteLb (h : nb.PoolHas lbId x value) (hw : nb.WellFormed)
    (hget : nb.lb? row.uuid = some row) (hnone : ∀ up, getPoolKey x up ∉ row.externalIds.keys) :
    (nb.deleteLb row.uuid).PoolHas lbId x value := by
  obtain ⟨old, hold, up, hv⟩ := h
  obtain ⟨hm, hname⟩ := Nb.mem_lbsNamed.mp hold
  have hne : old.uuid ≠ row.uuid := by
    intro hu
    obtain rfl := hw.eq_of_uuid hm (Nb.lb?_eq_some hget).1 hu
    exact hnone up (mem_keys_of_get? hv)
  refine ⟨old, Nb.mem_lbsNamed.mpr ⟨?_, hname⟩, up, hv⟩
  rw [Nb.loadBalancers_deleteLb, List.mem_filter]
  exact ⟨hm, by simpa using hne⟩

/-- A row that is cleaned away has no pool. -/
theorem Nb.PoolHas.cleaned (hw : nb.WellFormed) (h : nb.PoolHas lbId x value)
    (hget : nb.lb? row.uuid = some row) (hu : new.uuid = row.uuid) (hn : new.name = row.name)
    (hkeep : ∀ up, row.externalIds.get? (getPoolKey x up) = some value →
      new.externalIds.get? (getPoolKey x up) = some value) (id : Str) {isEmpty : Bool}
    (hempty : isEmpty = true → ∀ up, getPoolKey x up ∉ row.externalIds.keys) :
    (nb.cleaned id isEmpty new).PoolHas lbId x value := by
  have hput : ∀ new' : LoadBalancer, new'.uuid = row.uuid → new'.name = row.name →
      new'.externalIds = new.externalIds → (nb.putLb new').PoolHas lbId x value := by
    intro new' hu' hn' he
    refine h.putLb hw (hu' ▸ hget) hn' fun up hv => ⟨up, ?_⟩
    rw [he]
    exact hkeep up hv
  unfold Nb.cleaned
  split
  · next he =>
      split
      · exact hput new hu hn rfl
      · exact hput { new with protocol := none } hu hn rfl
      · rw [hu]
        exact h.deleteLb hw hget (hempty he)
  · exact hput new hu hn rfl

theorem Nb.PoolHas.createLb (h : nb.PoolHas lbId x value) (name : Str) (p : Option Protocol)
    (externalIds : Dict Str Str) (fields : List Str) :
    (nb.createLb name p externalIds fields).PoolHas lbId x value := by
  obtain ⟨row, hrow, up, hv⟩ := h
  obtain ⟨hm, hn⟩ := Nb.mem_lbsNamed.mp hrow
  exact ⟨row, Nb.mem_lbsNamed.mpr ⟨List.mem_append_left _ hm, hn⟩, up, hv⟩

theorem Nb.PoolHas.provided (hw : nb.WellFormed) (h : nb.PoolHas lbId x value) {p : Protocol}
    {state : Option Bool} (hpr : nb' = nb ∨ ∃ up, state = some up ∧ Provided env lbId p up nb nb') :
    nb'.PoolHas lbId x value := by
  rcases hpr with rfl | ⟨up, -, hpr⟩
  · exact h
  · cases hpr with
    | failed hp hs => exact h.same hw hs
    | assigned hrow hnone hp =>
        have hget := hw.lb?_of_mem (Nb.mem_lbsNamed.mp hrow).1
        exact h.putLb hw hget rfl fun up hv => ⟨up, hv⟩
    | created hfirst hp hvip hport hs => exact (h.createLb _ _ _ _).same (hw.createLb ..) hs

end Values

/-- Without a row for its pool the request raises. -/
theorem run_poolCreate_raises {env : Env} {info : PoolInfo} {nb : Nb}
    (h : info.adminStateUp = none ∨ ∃ up e, info.adminStateUp = some up ∧
      ((getOrCreateOvnLb env info.loadbalancerId info.protocol up info.lbAlgorithm).run
        Nb.apply nb).1 = .error e) :
    ((handle env (.poolCreate info)).run Nb.apply nb).1.isOk = false := by
  have hmap : handle env (.poolCreate info) =
      poolCreate env info >>= fun status => pure (some status) := rfl
  rw [hmap, Prog.run_bind, poolCreate]
  rcases h with hup | ⟨up, e, hup, he⟩
  · rw [hup]
    rfl
  · rw [hup]
    simp only [Prog.run_bind]
    rcases hrun : (getOrCreateOvnLb env info.loadbalancerId info.protocol up
      info.lbAlgorithm).run Nb.apply nb with ⟨e' | row, nb₁⟩
    · rfl
    · rw [hrun] at he
      cases he

namespace Kept
variable {env : Env} {h : History} {nb nb₁ : Nb} {row : LoadBalancer} {x value : Str}
  (hk : Kept env h nb)
include hk

section Objects

theorem poolHas_listenerCreate {info : ListenerInfo} (hlb : info.loadbalancerId = h.lbId)
    (hx : nb.PoolHas h.lbId x value) :
    (handled env (.listenerCreate info) nb).PoolHas h.lbId x value := by
  have hw := hk.table.wellFormed
  obtain ⟨nb₁, hpr, hout⟩ := handled_listenerCreate env hw info
  rw [hlb] at hpr hout
  have ht₁ := hk.table.of_provided hpr
  have hx₁ := hx.provided hw hpr
  rcases hout with hout | ⟨up, row, vips, -, hrow, -, -, hs⟩
  · rw [hout]
    exact hx₁
  · have hget := ht₁.get hrow
    have hput : (nb₁.putLb (createdListener info up row vips)).PoolHas h.lbId x value := by
      refine hx₁.putLb ht₁.wellFormed hget rfl fun b hv => ⟨b, ?_⟩
      rw [createdListener, samePools_set_listener _ _ _ up x b, hv]
    exact hput.same (ht₁.wellFormed.putLb _) hs

theorem poolHas_listenerDelete {info : ListenerInfo} (hlb : info.loadbalancerId = h.lbId)
    (hx : nb.PoolHas h.lbId x value) :
    (handled env (.listenerDelete info) nb).PoolHas h.lbId x value := by
  have hw := hk.table.wellFormed
  rcases handled_listenerDelete env hw info with ⟨e, -, hout⟩ | ⟨row, hsel, hout⟩
  · rw [hout]
    exact hx
  · rw [hlb] at hsel hout
    have hget := hk.table.get (selectOvnLb_ok hsel).1
    have hsame := samePools_erase_listener row.externalIds info.id true
    have hempty : isLbEmpty (row.externalIds.erase (getListenerKey info.id true)) = true →
        ∀ up, getPoolKey x up ∉ row.externalIds.keys := by
      intro he up hm
      refine (Table.notMem_of_isLbEmpty he x up).2 ((Dict.mem_keys_erase _ _ _).mpr ⟨hm, ?_⟩)
      exact fun hkey => listenerKey_ne_poolKey info.id x true up hkey.symm
    rcases hout with ⟨hout, -⟩ | ⟨hd, hout⟩ | ⟨vips, -, hout⟩
    · rw [hout]
      exact hx
    · rw [Nb.cleaningDeletes, Bool.and_eq_true] at hd
      rw [hout]
      exact hx.deleteLb hw hget (hempty hd.1)
    · rw [hout]
      refine hx.cleaned hw hget ?_ ?_ (fun up hv => ?_) _ hempty
      · rfl
      · rfl
      · rw [hsame x up, hv]

theorem poolHas_listenerUpdate {info : ListenerInfo} (hlb : info.loadbalancerId = h.lbId)
    (hx : nb.PoolHas h.lbId x value) :
    (handled env (.listenerUpdate info) nb).PoolHas h.lbId x value := by
  have hw := hk.table.wellFormed
  rcases handled_listenerUpdate env hw info with ⟨e, -, hout⟩ | ⟨row, hsel, hout⟩
  · rw [hout]
    exact hx
  · rw [hlb] at hsel
    have hget := hk.table.get (selectOvnLb_ok hsel).1
    rcases hout with ⟨hout, -⟩ | ⟨key, value, hkey, -, ⟨-, hout⟩ | ⟨vips, -, hout⟩⟩
    · rw [hout]
      exact hx
    · rw [hout]
      exact hx
    · obtain ⟨up, rfl, -⟩ := Table.presentListenerKey_eq hkey
      rw [hout]
      refine hx.putLb hw hget rfl fun b hv => ⟨b, ?_⟩
      rw [samePools_updatedListenerKeys rfl value row.externalIds x b, hv]

/-- A new pool is there without members, unless the request raised. -/
theorem poolHas_poolCreate {info : PoolInfo} (hlb : info.loadbalancerId = h.lbId)
    (hid : IsUuid info.id) :
    (∀ v, IsUuid x → x ≠ info.id → nb.PoolHas h.lbId x v →
        (handled env (.poolCreate info) nb).PoolHas h.lbId x v) ∧
      (((handle env (.poolCreate info)).run Nb.apply nb).1.isOk →
        (handled env (.poolCreate info) nb).PoolHas h.lbId info.id []) := by
  have hw := hk.table.wellFormed
  obtain ⟨nb₁, hpr, hout⟩ := handled_poolCreate env hw info
  rw [hlb] at hpr hout
  have ht₁ := hk.table.of_provided hpr
  rcases hout with ⟨hout, hraise⟩ | ⟨up, row, options, -, hrow, -, hout⟩
  · refine ⟨fun v _ _ hx => ?_, fun hok => ?_⟩
    · rw [hout]
      exact hx.provided hw hpr
    · rw [← hlb] at hraise
      rw [run_poolCreate_raises hraise] at hok
      cases hok
  · have hget := ht₁.get hrow
    rw [hout]
    refine ⟨fun v hx hne hv => ?_, fun _ => ?_⟩
    · refine (hv.provided hw hpr).putLb ht₁.wellFormed hget rfl fun b hb => ⟨b, ?_⟩
      rw [get?_poolCreateExternalIds, Dict.get?_set_of_ne _ _ fun he =>
        hne (getPoolKey_inj hx hid he).1, hb]
    · have hvalue : (poolCreateExternalIds info up row.externalIds).get?
          (getPoolKey info.id up) = some [] := by
        rw [get?_poolCreateExternalIds, Dict.get?_set_self]
      exact .of_putLb hget (Nb.mem_lbsNamed.mp hrow).2 hvalue

/-- The other pools stay. -/
theorem poolHas_poolDelete {info : PoolInfo} (hlb : info.loadbalancerId = h.lbId)
    (hid : IsUuid info.id) (hxid : IsUuid x) (hne : x ≠ info.id) (hx : nb.PoolHas h.lbId x value) :
    (handled env (.poolDelete info) nb).PoolHas h.lbId x value := by
  have hw := hk.table.wellFormed
  rcases handled_poolDelete env hw info with ⟨e, -, hout⟩ | ⟨row, hsel, hout⟩
  · rw [hout]
    exact hx
  · rw [hlb] at hsel hout
    have hrow := (selectOvnLb_ok hsel).1
    have hget := hk.table.get hrow
    have hvalue : ∀ up, (poolDeletedKeys info.id row.externalIds).get? (getPoolKey x up) =
        row.externalIds.get? (getPoolKey x up) := by
      intro up
      rw [get?_poolDeletedKeys (hk.readable row hrow) hid hxid, if_neg hne]
    rcases hout with ⟨-, hout⟩ | ⟨vips, options, -, hout⟩
    · rw [hout]
      exact hx
    · rw [hout]
      refine hx.cleaned hw hget ?_ ?_ (fun up hv => ?_) _ fun he up hm => ?_
      · rfl
      · rfl
      · rw [hvalue up, hv]
      · obtain ⟨v, hv⟩ := get?_of_mem_keys hm
        have hm' := mem_keys_of_get? ((hvalue up).trans hv)
        exact (Table.notMem_of_isLbEmpty he x up).2 (Table.mem_keys_poolDeletedKeys hm').1

theorem poolHas_poolUpdate {info : PoolInfo} (hlb : info.loadbalancerId = h.lbId)
    (hid : IsUuid info.id) (hxid : IsUuid x) (hx : nb.PoolHas h.lbId x value) :
    (handled env (.poolUpdate info) nb).PoolHas h.lbId x value := by
  have hw := hk.table.wellFormed
  cases hup : info.adminStateUp with
  | none =>
      rw [handled_eq, handle, run_map_some]
      exact hx.same hw (sameObjects_run (peripheral_poolUpdate env hup) nb)
  | some up =>
      rcases handled_poolUpdate env hw info hup with ⟨e, -, hout⟩ | ⟨row, hsel, hout⟩
      · rw [hout]
        exact hx
      · rw [hlb] at hsel
        have hrow := (selectOvnLb_ok hsel).1
        have hget := hk.table.get hrow
        rcases hout with ⟨-, hout⟩ | ⟨vips, options, -, hout⟩
        · rw [hout]
          exact hx
        · rw [hout]
          refine hx.putLb hw hget rfl fun b hv => ?_
          cases hfrom : row.externalIds.get? (getPoolKey info.id (!up)) with
          | none => exact ⟨b, by rw [movedPoolKeys_of_none hfrom, hv]⟩
          | some w =>
              rw [movedPoolKeys_of_some hfrom]
              by_cases hxi : x = info.id
              · -- the pool has one key only, so this is its value
                subst hxi
                have hb : b = !up := by
                  by_contra hb
                  have hother := otherKey_notMem (hk.readable row hrow) hid hfrom
                  rw [Bool.not_not] at hother
                  have hbup : b = up := by cases b <;> cases up <;> simp_all
                  exact hother (hbup ▸ mem_keys_of_get? hv)
                subst hb
                rw [hv] at hfrom
                cases hfrom
                exact ⟨up, Dict.get?_set_self ..⟩
              · have hkey : ∀ c, getPoolKey x b ≠ getPoolKey info.id c :=
                  fun c he => hxi (getPoolKey_inj hxid hid he).1
                refine ⟨b, ?_⟩
                rw [Dict.get?_set_of_ne _ _ (hkey up), Dict.get?_erase_of_ne _ (hkey _), hv]

end Objects

section Members
variable {info : MemberInfo} {d : MemberData} {poolId : Str} {p : Protocol} {ds : List MemberData}

omit hk in
/-- Statuses do not touch the pools. -/
private theorem poolHas_statusWritten (hw : nb.WellFormed) {u : Nat} {member : Str}
    {status : Option Str} (hst : StatusWritten u member status nb nb₁)
    (hx : nb.PoolHas h.lbId x value) : nb₁.PoolHas h.lbId x value := by
  cases hst with
  | unreadable => exact hx
  | @written row statuses hrow hs =>
      obtain rfl := (Nb.lb?_eq_some hrow).2
      refine hx.putLb hw hrow rfl fun b hv => ⟨b, ?_⟩
      rw [samePools_withStatuses row.externalIds _ x b, hv]

theorem poolHas_memberUpdate (hp : info.poolId = some poolId) (hpool : h.HasPool poolId p)
    (hx : nb.PoolHas h.lbId x value) :
    (handled env (.memberUpdate info) nb).PoolHas h.lbId x value := by
  have hw := hk.table.wellFormed
  cases hup : info.adminStateUp with
  | none =>
      rw [handled_memberUpdate_of_no_state hup]
      exact hx
  | some up =>
      rcases hk.poolRow hpool with ⟨b, row, v, hfound, hrow, hv⟩ | ⟨⟨key, hfound⟩, -⟩
      · have hget := hk.table.get hrow
        have hput : ∀ vips st, (nb.putLb { row with
            externalIds := withStatuses row.externalIds st, vips }).PoolHas h.lbId x value := by
          intro vips st
          refine hx.putLb hw hget rfl fun c hc => ⟨c, ?_⟩
          rw [samePools_withStatuses row.externalIds st x c, hc]
        rcases handled_memberUpdate env _ hw hp hfound (hk.readable row hrow).statuses hup
          rfl rfl rfl with ⟨-, hout⟩ | ⟨-, ⟨-, hout⟩ | ⟨vips, -, hout⟩⟩
        · rw [hout]
          exact hput row.vips _
        · rw [hout]
          exact hput row.vips _
        · rw [hout]
          exact hput vips _
      · rw [handled_memberUpdate_of_none (.inr ⟨poolId, key, hp, hfound⟩)]
        exact hx

/-- A member that is added comes last in its pool; the other pools stay. -/
theorem poolHas_added (hid : IsUuid poolId) (hrow : row ∈ nb.lbsNamed h.lbId) {b : Bool}
    (hv : row.externalIds.get? (getPoolKey poolId b) = some (poolValue ds))
    (hds : ∀ a ∈ ds, a.WellFormed env) (hd : info.Describes d) (hwf : d.WellFormed env)
    (ha : Added env info (getPoolKey poolId b) (poolValue ds) row nb nb₁) :
    nb₁.PoolHas h.lbId poolId (poolValue (enrol ds d)) ∧
      ∀ x v, IsUuid x → x ≠ poolId → nb.PoolHas h.lbId x v → nb₁.PoolHas h.lbId x v := by
  have hw := hk.table.wellFormed
  have hget := hk.table.get hrow
  have hr := hk.readable row hrow
  cases ha with
  | incomplete hi =>
      rw [hd.text] at hi
      cases hi
  | present hi hm =>
      cases hd.text.symm.trans hi
      rw [poolItems_poolValue hds] at hm
      obtain ⟨a, ha, he⟩ := List.mem_map.mp hm
      obtain rfl := MemberData.text_inj (hds a ha) hwf he
      rw [enrol, if_pos ha]
      exact ⟨⟨row, hrow, b, hv⟩, fun x v _ _ hx => hx⟩
  | unframed hi hup hf =>
      cases hd.text.symm.trans hi
      obtain ⟨vips, hok⟩ := hr.frame_ok (hr.set_pool hid (otherKey_notMem hr hid hv)
        (isPoolValue_append (hr.pool _ _ _ hid hv) hwf))
      rw [hok] at hf
      cases hf
  | @added text vips hi hm hf =>
      cases hd.text.symm.trans hi
      have hnew : d ∉ ds := by
        rw [poolItems_poolValue hds] at hm
        exact fun hmem => hm (List.mem_map_of_mem hmem)
      rw [poolValue_append hds, enrol, if_neg hnew]
      have hs := (peripheral_associateMember env info row).sameObjects (nb.putLb { row with
        externalIds := row.externalIds.set (getPoolKey poolId b) (poolValue (ds ++ [d])), vips })
      refine ⟨Nb.PoolHas.same (hw.putLb _) ?_ hs, fun x v hx hne hxv =>
        Nb.PoolHas.same (hw.putLb _) ?_ hs⟩
      · have hvalue : (row.externalIds.set (getPoolKey poolId b) (poolValue (ds ++ [d]))).get?
            (getPoolKey poolId b) = some (poolValue (ds ++ [d])) := Dict.get?_set_self ..
        exact .of_putLb hget (Nb.mem_lbsNamed.mp hrow).2 hvalue
      · refine hxv.putLb hw hget rfl fun c hc => ⟨c, ?_⟩
        rw [Dict.get?_set_of_ne _ _ fun he => hne (getPoolKey_inj hx hid he).1, hc]

/-- A member that is removed leaves its pool; the other pools stay. -/
theorem poolHas_removed (hid : IsUuid poolId) (hrow : row ∈ nb.lbsNamed h.lbId)
    (hmon : row.healthCheck = []) {b : Bool}
    (hv : row.externalIds.get? (getPoolKey poolId b) = some (poolValue ds))
    (hds : ∀ a ∈ ds, a.WellFormed env) (hd : info.Describes d) (hwf : d.WellFormed env)
    (hr : Removed env info (getPoolKey poolId b) (poolValue ds) row nb nb₁) :
    nb₁.PoolHas h.lbId poolId (poolValue (ds.erase d)) ∧
      ∀ x v, IsUuid x → x ≠ poolId → nb.PoolHas h.lbId x v → nb₁.PoolHas h.lbId x v := by
  have hw := hk.table.wellFormed
  have hget := hk.table.get hrow
  have hread := hk.readable row hrow
  cases hr with
  | incomplete hi =>
      rw [hd.text] at hi
      cases hi
  | absent hi hm hs hn =>
      cases hd.text.symm.trans hi
      rw [mem_splitOn_poolValue hds hwf] at hm
      rw [List.erase_of_not_mem hm]
      have hx : nb.PoolHas h.lbId poolId (poolValue ds) := ⟨row, hrow, b, hv⟩
      exact ⟨hx.same hw hs, fun x v _ _ hx => hx.same hw hs⟩
  | unmapped hi hmon' hrun => exact absurd hmon hmon'
  | unframed hi hm hs hrow₀ hf =>
      cases hd.text.symm.trans hi
      obtain ⟨row₀', hrow₀', hsame⟩ := hs.lb? hget
      rw [hrow₀] at hrow₀'
      cases hrow₀'
      obtain ⟨vips, hok⟩ := (hread.of_sameKeys hsame.externalIds).frame_ok
        (hread.set_pool hid (otherKey_notMem hread hid hv)
          (isPoolValue_erase (hread.pool _ _ _ hid hv) hwf hm))
      rw [hok] at hf
      cases hf
  | @removed text vips nb₀ _ row₀ hi hm hs hrow₀ hn hf hs₁ hn₁ =>
      cases hd.text.symm.trans hi
      have hmem : d ∈ ds := (mem_splitOn_poolValue hds hwf).mp hm
      have hw₀ := hs.wellFormed hw
      obtain ⟨hm₀, hu₀⟩ := Nb.lb?_eq_some hrow₀
      have hget₀ : nb₀.lb? row₀.uuid = some row₀ := hw₀.lb?_of_mem hm₀
      obtain ⟨row₀', hrow₀', hsame⟩ := hs.lb? hget
      rw [hrow₀] at hrow₀'
      cases hrow₀'
      have hname : row₀.name = h.lbId := hsame.name.trans (Nb.mem_lbsNamed.mp hrow).2
      rw [poolValue_erase hds hwf hmem] at hs₁
      refine ⟨Nb.PoolHas.same (hw₀.putLb _) ?_ hs₁, fun x v hx hne hxv =>
        Nb.PoolHas.same (hw₀.putLb _) ?_ hs₁⟩
      · have hvalue : (row₀.externalIds.set (getPoolKey poolId b) (poolValue (ds.erase d))).get?
            (getPoolKey poolId b) = some (poolValue (ds.erase d)) := Dict.get?_set_self ..
        exact .of_putLb hget₀ hname hvalue
      · refine (hxv.same hw hs).putLb hw₀ hget₀ rfl fun c hc => ⟨c, ?_⟩
        rw [Dict.get?_set_of_ne _ _ fun he => hne (getPoolKey_inj hx hid he).1, hc]

theorem poolHas_memberCreate (hp : info.poolId = some poolId) (hpool : h.HasPool poolId p)
    (hd : info.Describes d) (hwf : d.WellFormed env) :
    (∀ ds, (∀ a ∈ ds, a.WellFormed env) → nb.PoolHas h.lbId poolId (poolValue ds) →
        (handled env (.memberCreate info) nb).PoolHas h.lbId poolId (poolValue (enrol ds d))) ∧
      ∀ x v, IsUuid x → x ≠ poolId → nb.PoolHas h.lbId x v →
        (handled env (.memberCreate info) nb).PoolHas h.lbId x v := by
  have hw := hk.table.wellFormed
  rcases hk.poolRow hpool with ⟨b, row, value, hfound, hrow, hv⟩ | ⟨⟨key, hfound⟩, hnone⟩
  · obtain ⟨nb₁, nb₂, hc⟩ := handled_memberCreate env hw hp hfound hv
    have hid := hk.isUuid_of_pool hpool
    obtain ⟨ds₀, rfl, hds₀⟩ := (hk.readable row hrow).pool poolId b value hid hv
    obtain ⟨hown, hothers⟩ := hk.poolHas_added hid hrow hv hds₀ hd hwf hc.added
    have hw₁ := (hc.added.row hw (hk.table.get hrow)).1
    have hrest : ∀ {x v}, nb₁.PoolHas h.lbId x v →
        (handled env (.memberCreate info) nb).PoolHas h.lbId x v := by
      intro x v hx
      have hx₂ := hx.same hw₁ hc.between
      rcases hc.status with ⟨hnb, -⟩ | ⟨up, status, -, -, hst⟩
      · rw [hnb]
        exact hx₂
      · exact poolHas_statusWritten (hc.between.wellFormed hw₁) hst hx₂
    refine ⟨fun ds hds hx => ?_, fun x v hx hne hxv => hrest (hothers x v hx hne hxv)⟩
    -- the pool's row and key are the only ones, so the values agree
    obtain ⟨row', hrow', b', hv'⟩ := hx
    obtain ⟨rfl, rfl⟩ := hk.pool_unique hrow' hrow hpool (mem_keys_of_get? hv')
      (mem_keys_of_get? hv)
    rw [hv, Option.some.injEq] at hv'
    rw [← poolValue_inj hds₀ hds hv']
    exact hrest hown
  · rw [handled_memberCreate_of_none (.inr ⟨poolId, key, hp, hfound⟩)]
    refine ⟨fun ds _ hx => ?_, fun x v _ _ hx => hx⟩
    obtain ⟨row, hrow, b, hv⟩ := hx
    exact absurd (mem_keys_of_get? hv) (hnone row hrow b)

theorem poolHas_memberDelete (hp : info.poolId = some poolId) (hpool : h.HasPool poolId p)
    (hmon : ∀ row ∈ nb.lbsNamed h.lbId, row.healthCheck = []) (hd : info.Describes d)
    (hwf : d.WellFormed env) :
    (∀ ds, (∀ a ∈ ds, a.WellFormed env) → nb.PoolHas h.lbId poolId (poolValue ds) →
        (handled env (.memberDelete info) nb).PoolHas h.lbId poolId (poolValue (ds.erase d))) ∧
      ∀ x v, IsUuid x → x ≠ poolId → nb.PoolHas h.lbId x v →
        (handled env (.memberDelete info) nb).PoolHas h.lbId x v := by
  have hw := hk.table.wellFormed
  rcases hk.poolRow hpool with ⟨b, row, value, hfound, hrow, hv⟩ | ⟨⟨key, hfound⟩, hnone⟩
  · obtain ⟨nb₁, nb₂, hrem, hbetween, -, hst⟩ := handled_memberDelete env hw hp hfound hv
    have hid := hk.isUuid_of_pool hpool
    obtain ⟨ds₀, rfl, hds₀⟩ := (hk.readable row hrow).pool poolId b value hid hv
    obtain ⟨hown, hothers⟩ := hk.poolHas_removed hid hrow (hmon row hrow) hv hds₀ hd hwf hrem
    have hw₁ := (hrem.row hw (hk.table.get hrow)).1
    have hrest : ∀ {x v}, nb₁.PoolHas h.lbId x v →
        (handled env (.memberDelete info) nb).PoolHas h.lbId x v := by
      intro x v hx
      exact poolHas_statusWritten (hbetween.wellFormed hw₁) hst (hx.same hw₁ hbetween)
    refine ⟨fun ds hds hx => ?_, fun x v hx hne hxv => hrest (hothers x v hx hne hxv)⟩
    obtain ⟨row', hrow', b', hv'⟩ := hx
    obtain ⟨rfl, rfl⟩ := hk.pool_unique hrow' hrow hpool (mem_keys_of_get? hv')
      (mem_keys_of_get? hv)
    rw [hv, Option.some.injEq] at hv'
    rw [← poolValue_inj hds₀ hds hv']
    exact hrest hown
  · rw [handled_memberDelete_of_none (.inr ⟨poolId, key, hp, hfound⟩)]
    refine ⟨fun ds _ hx => ?_, fun x v _ _ hx => hx⟩
    obtain ⟨row, hrow, b, hv⟩ := hx
    exact absurd (mem_keys_of_get? hv) (hnone row hrow b)

end Members

end Kept

section Unmonitored
variable {env : Env} {h : History} {nb : Nb} {r : Request} {row row' : LoadBalancer}

theorem Source.unmonitored (hmon : ∀ row ∈ nb.lbsNamed h.lbId, row.healthCheck = [])
    (hs : Source env nb h r row) : row.healthCheck = [] := by
  cases hs with
  | present hold hs => exact hs.unmonitored (hmon _ hold)
  | provided hfirst hup hvip he hv hc hs => exact hs.unmonitored hc

/-- No request on listeners, pools and members starts health checks. -/
theorem Effect.unmonitored (he : Effect env nb r row row') (hmon : row.healthCheck = []) :
    row'.healthCheck = [] := by
  cases he with
  | spared h hs => exact hs.unmonitored hmon
  | listenerCreated hup hf hs => exact hs.unmonitored hmon
  | listenerDeleted hf hs => exact hs.unmonitored hmon
  | listenerUpdated hkey hv hf hs => exact hs.unmonitored hmon
  | poolCreated hup hs => exact hs.unmonitored hmon
  | poolDeleted hf hs => exact hs.unmonitored hmon
  | poolUpdated hup hf hs => exact hs.unmonitored hmon
  | memberCreated hp hv hadd hs hst =>
      have hadded : row'.healthCheck = [] ∨ row.healthCheck ≠ [] := by
        rcases hst with ⟨-, -, hne⟩ | ⟨up, status, -, -, rfl⟩
        · exact .inr hne
        · refine .inl (hs.unmonitored ?_)
          rcases hadd with ⟨text, -, -, rfl⟩ | ⟨text, vips, -, -, -, rfl⟩
          · exact hmon
          · exact hmon
      exact hadded.resolve_right fun hne => hne hmon
  | memberDeleted hp hv hrem hs hst =>
      rw [hst]
      refine hs.unmonitored ?_
      rcases hrem with ⟨rfl, -⟩ | ⟨text, row₀, vips, -, -, hc, -, rfl⟩
      · exact hmon
      · exact hc.unmonitored hmon
  | memberUpdated hp hk hup hlast hstatus hvips hrow =>
      rw [hrow]
      exact hmon

end Unmonitored

section Roster

/-- The pools there are, each with its members in the order they were created. -/
abbrev Roster := Dict Str (List MemberData)

/-- The member a request names, where it names it completely. -/
def MemberInfo.data (info : MemberInfo) : Option MemberData :=
  match info.address, info.protocolPort, info.subnetId with
  | some ip, some port, some subnet => some ⟨ip, port, subnet, info.id⟩
  | _, _, _ => none

theorem MemberInfo.Describes.data_eq {info : MemberInfo} {d : MemberData}
    (hd : info.Describes d) : info.data = some d := by
  obtain ⟨hid, ha, hp, hs⟩ := hd
  rw [MemberInfo.data, ha, hp, hs, hid]

namespace Roster

/-- Another list of members for the pool of a request. -/
def change (ρ : Roster) (info : MemberInfo)
    (f : List MemberData → MemberData → List MemberData) : Roster :=
  match info.poolId, info.data with
  | some poolId, some d =>
      match ρ.get? poolId with
      | some ds => ρ.set poolId (f ds d)
      | none => ρ
  | _, _ => ρ

/-- The pools after a request, given whether its handler returned: a created member
comes last unless it is there, a deleted one goes if it is there. -/
def next (ρ : Roster) (answered : Bool) : Request → Roster
  | .poolCreate info => if answered then ρ.set info.id [] else ρ
  | .poolDelete info => ρ.erase info.id
  | .memberCreate info => ρ.change info enrol
  | .memberDelete info => ρ.change info List.erase
  | _ => ρ

theorem get?_change {ρ : Roster} {info : MemberInfo}
    {f : List MemberData → MemberData → List MemberData} {poolId : Str} {d : MemberData}
    (hp : info.poolId = some poolId) (hd : info.Describes d) (x : Str) :
    (ρ.change info f).get? x =
      if x = poolId then (ρ.get? poolId).map fun ds => f ds d else ρ.get? x := by
  rw [change, hp, hd.data_eq]
  cases hg : ρ.get? poolId with
  | none =>
      by_cases hx : x = poolId
      · rw [if_pos hx, hx]
        simp [hg]
      · rw [if_neg hx]
        simp [hg]
  | some ds =>
      simp only [hg, Dict.get?_set]
      split
      · rfl
      · rfl

end Roster

/-- The rows hold the pools of the roster with their members. -/
structure Enrolled (env : Env) (h : History) (ρ : Roster) (nb : Nb) : Prop where
  kept : Kept env h nb
  unmonitored : ∀ row ∈ nb.lbsNamed h.lbId, row.healthCheck = []
  known : ∀ x ds, ρ.get? x = some ds → ∃ p, h.HasPool x p
  members : ∀ x ds, ρ.get? x = some ds → ds.Nodup ∧ ∀ d ∈ ds, d.WellFormed env
  values : ∀ x ds, ρ.get? x = some ds → nb.PoolHas h.lbId x (poolValue ds)

namespace Enrolled
variable {env : Env} {h : History} {ρ : Roster} {nb : Nb} {r : Request}

/-- Where the roster is not touched it is enough that the pools stay. -/
private theorem of_kept (he : Enrolled env h ρ nb) (ht : env.TellsAddresses)
    (hr : IsLbRequest env h r) {ρ' : Roster}
    (hnew : ∀ x ds, ρ'.get? x = some ds → (∃ p, (h.next r).HasPool x p) ∧
      (ds.Nodup ∧ ∀ d ∈ ds, d.WellFormed env) ∧
        (handled env r nb).PoolHas h.lbId x (poolValue ds)) :
    Enrolled env (h.next r) ρ' (handled env r nb) where
  kept := he.kept.next ht hr
  unmonitored := by
    intro row hm
    rw [History.lbId_next] at hm
    obtain ⟨row₀, hs, heff⟩ := he.kept.effect hr hm
    exact heff.unmonitored (hs.unmonitored he.unmonitored)
  known := fun x ds hx => (hnew x ds hx).1
  members := fun x ds hx => (hnew x ds hx).2.1
  values := fun x ds hx => (h.lbId_next r).symm ▸ (hnew x ds hx).2.2

private theorem untouched (he : Enrolled env h ρ nb) (ht : env.TellsAddresses)
    (hr : IsLbRequest env h r)
    (hkeep : ∀ x v, IsUuid x → nb.PoolHas h.lbId x v → (handled env r nb).PoolHas h.lbId x v) :
    Enrolled env (h.next r) ρ (handled env r nb) := by
  refine he.of_kept ht hr fun x ds hx => ?_
  obtain ⟨p, hp⟩ := he.known x ds hx
  exact ⟨⟨p, (h.extends_next r).pool x p hp⟩, he.members x ds hx,
    hkeep x _ (he.kept.isUuid_of_pool hp) (he.values x ds hx)⟩

theorem step (he : Enrolled env h ρ nb) (ht : env.TellsAddresses) (hr : IsLbRequest env h r) :
    Enrolled env (h.next r) (ρ.next ((handle env r).run Nb.apply nb).1.isOk r)
      (handled env r nb) := by
  have hk := he.kept
  have hknown : ∀ x ds, ρ.get? x = some ds → ∃ p, (h.next r).HasPool x p := by
    intro x ds hx
    obtain ⟨p, hp⟩ := he.known x ds hx
    exact ⟨p, (h.extends_next r).pool x p hp⟩
  have hid : ∀ x ds, ρ.get? x = some ds → IsUuid x := by
    intro x ds hx
    obtain ⟨p, hp⟩ := he.known x ds hx
    exact hk.isUuid_of_pool hp
  cases r with
  | listenerCreate info =>
      exact he.untouched ht hr fun x v _ hx => hk.poolHas_listenerCreate hr.1 hx
  | listenerDelete info =>
      exact he.untouched ht hr fun x v _ hx => hk.poolHas_listenerDelete hr.1 hx
  | listenerUpdate info =>
      exact he.untouched ht hr fun x v _ hx => hk.poolHas_listenerUpdate hr.1 hx
  | poolUpdate info =>
      exact he.untouched ht hr fun x v hx hxv => hk.poolHas_poolUpdate hr.1 hr.2 hx hxv
  | memberUpdate info =>
      have hupdate := hr
      obtain ⟨poolId, p, hp, hpool⟩ := hupdate
      exact he.untouched ht hr fun x v _ hx => hk.poolHas_memberUpdate hp hpool hx
  | poolCreate info =>
      have hcreate := hr
      obtain ⟨hlb, huuid, hfresh, -⟩ := hcreate
      have hne : ∀ x ds, ρ.get? x = some ds → x ≠ info.id := by
        rintro x ds hx rfl
        obtain ⟨p, y, hy, hyid, -⟩ := he.known _ ds hx
        exact hfresh (hyid ▸ hk.distinct.pool_taken y hy)
      have hkeep : ∀ x ds, ρ.get? x = some ds →
          (handled env (.poolCreate info) nb).PoolHas h.lbId x (poolValue ds) := fun x ds hx =>
        (hk.poolHas_poolCreate hlb huuid).1 _ (hid x ds hx) (hne x ds hx) (he.values x ds hx)
      refine he.of_kept ht hr fun x ds hx => ?_
      rw [Roster.next] at hx
      split at hx
      · next hok =>
          rw [Dict.get?_set] at hx
          split at hx
          · next hxi =>
              cases hx
              subst hxi
              refine ⟨⟨info.protocol, ?_⟩, ⟨List.nodup_nil, List.forall_mem_nil _⟩,
                (hk.poolHas_poolCreate (x := info.id) hlb huuid).2 hok⟩
              simp only [History.next]
              split
              · exact ⟨_, List.mem_append_right _ (List.mem_singleton_self _), rfl, rfl⟩
              · exact ⟨_, List.mem_append_right _ (List.mem_singleton_self _), rfl, rfl⟩
          · exact ⟨hknown x ds hx, he.members x ds hx, hkeep x ds hx⟩
      · exact ⟨hknown x ds hx, he.members x ds hx, hkeep x ds hx⟩
  | poolDelete info =>
      have hdelete := hr
      obtain ⟨hlb, hpool⟩ := hdelete
      refine he.of_kept ht hr fun x ds hx => ?_
      rw [Roster.next, Dict.get?_erase] at hx
      split at hx
      · cases hx
      · next hne =>
          exact ⟨hknown x ds hx, he.members x ds hx, hk.poolHas_poolDelete hlb
            (hk.isUuid_of_pool hpool) (hid x ds hx) hne (he.values x ds hx)⟩
  | memberCreate info =>
      have hcreate := hr
      obtain ⟨poolId, p, d, hp, hpool, hd, hwf, -⟩ := hcreate
      obtain ⟨hown, hothers⟩ := hk.poolHas_memberCreate hp hpool hd hwf
      refine he.of_kept ht hr fun x ds hx => ?_
      rw [Roster.next, Roster.get?_change hp hd] at hx
      split at hx
      · next hxp =>
          subst hxp
          obtain ⟨ds₀, hds₀, rfl⟩ := Option.map_eq_some_iff.mp hx
          obtain ⟨hn, hw⟩ := he.members x ds₀ hds₀
          refine ⟨hknown x ds₀ hds₀, ⟨nodup_enrol hn d, fun a ha => ?_⟩,
            hown ds₀ hw (he.values x ds₀ hds₀)⟩
          rcases mem_enrol ha with ha | rfl
          · exact hw a ha
          · exact hwf
      · next hne =>
          exact ⟨hknown x ds hx, he.members x ds hx,
            hothers x _ (hid x ds hx) hne (he.values x ds hx)⟩
  | memberDelete info =>
      have hdelete := hr
      obtain ⟨poolId, p, d, hp, hpool, hd, hwf⟩ := hdelete
      obtain ⟨hown, hothers⟩ := hk.poolHas_memberDelete hp hpool he.unmonitored hd hwf
      refine he.of_kept ht hr fun x ds hx => ?_
      rw [Roster.next, Roster.get?_change hp hd] at hx
      split at hx
      · next hxp =>
          subst hxp
          obtain ⟨ds₀, hds₀, rfl⟩ := Option.map_eq_some_iff.mp hx
          obtain ⟨hn, hw⟩ := he.members x ds₀ hds₀
          exact ⟨hknown x ds₀ hds₀, ⟨hn.erase d, fun a ha => hw a (List.mem_of_mem_erase ha)⟩,
            hown ds₀ hw (he.values x ds₀ hds₀)⟩
      · next hne =>
          exact ⟨hknown x ds hx, he.members x ds hx,
            hothers x _ (hid x ds hx) hne (he.values x ds hx)⟩
  | _ => exact hr.elim

end Enrolled

end Roster

section Addresses
variable {env env' : Env} (hv : env'.ipVersion = env.ipVersion)
include hv

theorem MemberData.WellFormed.congr {d : MemberData} (hd : d.WellFormed env) :
    d.WellFormed env' :=
  ⟨hd.id, hv ▸ hd.address, hd.ip_chars, hd.port_chars, hd.subnet_chars⟩

theorem Readable.congr {e : Dict Str Str} (hr : Readable env e) : Readable env' e where
  key := hr.key
  statuses := hr.statuses
  listener := hr.listener
  pool := by
    intro id up v hid hget
    obtain ⟨ds, he, hds⟩ := hr.pool id up v hid hget
    exact ⟨ds, he, fun d hd => (hds d hd).congr hv⟩
  sole := hr.sole
  vips := hv ▸ hr.vips
  fips := hv ▸ hr.fips

/-- What the requests rely on does not depend on Neutron or Octavia. -/
theorem Kept.congr {h : History} {nb : Nb} (hk : Kept env h nb) : Kept env' h nb :=
  ⟨hk.table, hk.distinct, fun row hrow => (hk.readable row hrow).congr hv, hk.foreign⟩

theorem Enrolled.congr {h : History} {ρ : Roster} {nb : Nb} (he : Enrolled env h ρ nb) :
    Enrolled env' h ρ nb where
  kept := he.kept.congr hv
  unmonitored := he.unmonitored
  known := he.known
  members := fun x ds hx =>
    ⟨(he.members x ds hx).1, fun d hd => ((he.members x ds hx).2 d hd).congr hv⟩
  values := he.values

end Addresses

section Runs

/-- The state of a run after a request: what Octavia asked for, its pools, the rows. -/
def rosterNext (env : Env) (s : History × Roster × Nb) (r : Request) : History × Roster × Nb :=
  (s.1.next r, s.2.1.next ((handle env r).run Nb.apply s.2.2).1.isOk r, handled env r s.2.2)

/-- One request on listeners, pools or members. Neutron and Octavia may change from one
request to the next; what an address is does not. -/
inductive RosterStep (env : Env) : History × Roster × Nb → History × Roster × Nb → Prop
  | request {s : History × Roster × Nb} {env' : Env} {r : Request}
      (hv : env'.ipVersion = env.ipVersion) (ht : env'.TellsAddresses)
      (hr : IsLbRequest env' s.1 r) : RosterStep env s (rosterNext env' s r)

/-- Each pool has one key, on one row, whose value lists its members once each in the
order of the roster. -/
def PoolsExact (lbId : Str) (ρ : Roster) (nb : Nb) : Prop :=
  ∀ x ds, ρ.get? x = some ds → ds.Nodup ∧ extractMemberInfo (poolValue ds) = .ok ds ∧
    ∃ row ∈ nb.lbsNamed lbId, ∃ up,
      row.externalIds.get? (getPoolKey x up) = some (poolValue ds) ∧
        ∀ row' ∈ nb.loadBalancers, ∀ up', getPoolKey x up' ∈ row'.externalIds.keys →
          row' = row ∧ up' = up

variable {env : Env} {info : LoadBalancerInfo} {nb₀ nb₁ nb : Nb} {h : History} {ρ : Roster}
  {operatingStatus : Str} {taken : List Str}

theorem Enrolled.exact (he : Enrolled env h ρ nb) : PoolsExact h.lbId ρ nb := by
  intro x ds hx
  have hk := he.kept
  obtain ⟨p, hp⟩ := he.known x ds hx
  obtain ⟨hn, hw⟩ := he.members x ds hx
  obtain ⟨row, hrow, up, hv⟩ := he.values x ds hx
  refine ⟨hn, extractMemberInfo_poolValue hw, row, hrow, up, hv, fun row' hrow' up' hkey => ?_⟩
  have hname : row'.name = h.lbId := by
    by_contra hne
    exact (hk.foreign row' hrow' hne x up' (hk.isUuid_of_pool hp) hkey).2 p hp
  exact hk.pool_unique (Nb.mem_lbsNamed.mpr ⟨hrow', hname⟩) hrow hp hkey (mem_keys_of_get? hv)

theorem Enrolled.keeps {s s' : History × Roster × Nb} (hs : RosterStep env s s')
    (he : Enrolled env s.1 s.2.1 s.2.2) : Enrolled env s'.1 s'.2.1 s'.2.2 := by
  cases hs with
  | request hv ht hr => exact ((he.congr hv).step ht hr).congr hv.symm

theorem Enrolled.keeps_run {s s' : History × Roster × Nb}
    (hrun : Relation.ReflTransGen (RosterStep env) s s') (he : Enrolled env s.1 s.2.1 s.2.2) :
    Enrolled env s'.1 s'.2.1 s'.2.2 := by
  induction hrun with
  | refl => exact he
  | tail _ hs ih => exact ih.keeps hs

/-- A load balancer that was just created has no pools. -/
theorem Enrolled.start (hw : nb₀.WellFormed) (hnone : nb₀.lbsNamed info.id = [])
    (ha : info.Addressed env)
    (htaken : ∀ row ∈ nb₀.loadBalancers, ∀ id up, IsUuid id →
      getPoolKey id up ∈ row.externalIds.keys → id ∈ taken)
    (hcreate : (lbCreate env info none).run Nb.apply nb₀ =
      (.ok (lbStatusOf info.id ACTIVE operatingStatus), nb₁)) :
    Enrolled env (History.new info.id taken) ∅ nb₁ := by
  refine ⟨.start hw hnone ha htaken hcreate, fun row hm => ?_, nofun, nofun, nofun⟩
  obtain ⟨vip, vipPortId, up, fields, -, -, -, hs⟩ := lbCreate_active hcreate
  obtain ⟨row₁, hrow₁, hsame⟩ := hs.exists_of_mem_named hm
  obtain ⟨hm₁, hn₁⟩ := Nb.mem_lbsNamed.mp hrow₁
  rcases List.mem_append.mp hm₁ with hm₁ | hm₁
  · have hmem : row₁ ∈ nb₀.lbsNamed info.id := Nb.mem_lbsNamed.mpr ⟨hm₁, hn₁⟩
    rw [hnone] at hmem
    cases hmem
  · refine hsame.unmonitored ?_
    rw [List.mem_singleton.mp hm₁]

/-- After every request each pool's value lists exactly the members created and not
deleted since, in the order they were created. -/
theorem poolsExact_of_run (hw : nb₀.WellFormed) (hnone : nb₀.lbsNamed info.id = [])
    (ha : info.Addressed env)
    (htaken : ∀ row ∈ nb₀.loadBalancers, ∀ id up, IsUuid id →
      getPoolKey id up ∈ row.externalIds.keys → id ∈ taken)
    (hcreate : (lbCreate env info none).run Nb.apply nb₀ =
      (.ok (lbStatusOf info.id ACTIVE operatingStatus), nb₁))
    (hrun : Relation.ReflTransGen (RosterStep env) (History.new info.id taken, ∅, nb₁)
      (h, ρ, nb)) : PoolsExact h.lbId ρ nb :=
  (Enrolled.keeps_run hrun (.start hw hnone ha htaken hcreate)).exact

end Runs

section Example

def exampleDisabledPool : PoolInfo :=
  { id := exampleId 'c', loadbalancerId := exampleId 'a', protocol := .tcp
    adminStateUp := some false }

def exampleNewMember : MemberInfo :=
  { id := exampleId 'e', address := some "10.0.0.7".toList, protocolPort := some "80".toList
    poolId := some (exampleId 'c'), subnetId := some "sub".toList, adminStateUp := some true }

/-- A pool is created disabled, gets a member and is enabled. -/
def exampleToggled : History × Roster × Nb :=
  rosterNext exampleEnv (rosterNext exampleEnv (rosterNext exampleEnv
    (History.new exampleLb.id [], ∅, exampleCreated) (.poolCreate exampleDisabledPool))
      (.memberCreate exampleNewMember))
        (.poolUpdate { exampleDisabledPool with adminStateUp := some true })

theorem poolsExact_of_run_example :
    PoolsExact exampleToggled.1.lbId exampleToggled.2.1 exampleToggled.2.2 := by
  have ht : exampleEnv.TellsAddresses := by
    intro id lb hlb v hv
    cases hlb
    cases hv
  have ha : exampleLb.Addressed exampleEnv :=
    ⟨by rintro a ⟨⟩; decide, nofun, nofun, nofun⟩
  have hpool : IsLbRequest exampleEnv (History.new exampleLb.id [])
      (.poolCreate exampleDisabledPool) :=
    ⟨rfl, isUuid_exampleId (by decide), List.not_mem_nil, nofun⟩
  have hmember : IsLbRequest exampleEnv
      ((History.new exampleLb.id []).next (.poolCreate exampleDisabledPool))
      (.memberCreate exampleNewMember) :=
    ⟨_, .tcp, _, rfl, ⟨_, List.mem_singleton_self _, rfl, rfl⟩, ⟨rfl, rfl, rfl, rfl⟩,
      wellFormed_exampleServer, rfl⟩
  have henable : IsLbRequest exampleEnv (((History.new exampleLb.id []).next
      (.poolCreate exampleDisabledPool)).next (.memberCreate exampleNewMember))
      (.poolUpdate { exampleDisabledPool with adminStateUp := some true }) :=
    ⟨rfl, isUuid_exampleId (by decide)⟩
  have hrun : Relation.ReflTransGen (RosterStep exampleEnv)
      (History.new exampleLb.id [], ∅, exampleCreated) exampleToggled :=
    ((Relation.ReflTransGen.single (.request rfl ht hpool)).tail (.request rfl ht hmember)).tail
      (.request rfl ht henable)
  exact poolsExact_of_run wellFormed_exampleNb rfl ha nofun run_exampleLb hrun

end Example

end OvnOctavia
