import OvnOctavia.MemberSteps

/-!
Every request on listeners, pools and members keeps the rows in order, readable and
apart from those of other load balancers, so that a run that starts with the creation
of the load balancer meets them so at every request.
-/

namespace OvnOctavia

section Others
variable {name : Str} {u : Nat} {nb nb' : Nb} {row row' : LoadBalancer} {env : Env}
  {info : MemberInfo} {key value : Str}

theorem Nb.OnlyNamed.name_eq (h : nb.OnlyNamed name nb') (hw : nb.WellFormed)
    (hrow : nb.lb? u = some row) (hn : row.name = name) (hrow' : nb'.lb? u = some row') :
    row'.name = name := by
  obtain ⟨hm, hu⟩ := Nb.lb?_eq_some hrow
  obtain ⟨hm', hu'⟩ := Nb.lb?_eq_some hrow'
  by_contra hne
  obtain ⟨old, hold, hs⟩ := h row' hm' hne
  have he : old = row := hw.eq_of_uuid hold hm (hs.uuid.symm.trans (hu'.trans hu.symm))
  exact hne (hs.name.trans (he ▸ hn))

theorem onlyNamed_added (hrow : nb.lb? row.uuid = some row) (hn : row.name = name)
    (ha : Added env info key value row nb nb') : nb.OnlyNamed name nb' := by
  cases ha with
  | incomplete | present | unframed => exact .refl name nb
  | @added text vips hi hm hf =>
      have hs := (peripheral_associateMember env info row).sameObjects (nb.putLb { row with
        externalIds := row.externalIds.set key (Str.join ',' (poolItems value ++ [text])), vips })
      have hput : nb.OnlyNamed name (nb.putLb { row with
          externalIds := row.externalIds.set key (Str.join ',' (poolItems value ++ [text]))
          vips }) := Nb.onlyNamed_putLb hrow rfl hn
      exact hput.trans hs.onlyNamed

theorem onlyNamed_removed (hw : nb.WellFormed) (hrow : nb.lb? row.uuid = some row)
    (hn : row.name = name) (hr : Removed env info key value row nb nb') :
    nb.OnlyNamed name nb' := by
  cases hr with
  | incomplete => exact .refl name nb
  | absent h hm hs hn => exact hs.onlyNamed
  | unmapped h hmon hr =>
      have hs := (peripheral_updateHmMember env row key (info.address.getD []) true).sameObjects nb
      rw [hr] at hs
      exact hs.onlyNamed
  | unframed h hm hs hrow₀ hf => exact hs.onlyNamed
  | @removed text vips nb₀ nb₁ row₀ hi hm hs hrow₀ hn₀ hf hs₁ hn₁ =>
      have ho : nb.OnlyNamed name nb₀ := hs.onlyNamed
      have hu := (Nb.lb?_eq_some hrow₀).2
      have hput : nb₀.OnlyNamed name (nb₀.putLb { row₀ with
          externalIds := row₀.externalIds.set key (Str.join ',' ((value.splitOn ',').erase text))
          vips }) := by
        have hget : nb₀.lb? row₀.uuid = some row₀ := by rw [hu, hrow₀]
        have hname := ho.name_eq hw hrow hn hrow₀
        exact Nb.onlyNamed_putLb hget rfl hname
      exact ho.trans (hput.trans hs₁.onlyNamed)

theorem onlyNamed_statusWritten (hn : ∀ row, nb.lb? u = some row → row.name = name)
    {member : Str} {status : Option Str} (hs : StatusWritten u member status nb nb') :
    nb.OnlyNamed name nb' := by
  cases hs with
  | unreadable => exact .refl name nb
  | @written row statuses hrow hst =>
      obtain rfl := (Nb.lb?_eq_some hrow).2
      exact Nb.onlyNamed_putLb hrow rfl (hn row hrow)

end Others

namespace Kept
variable {env : Env} {h : History} {nb nb₁ : Nb} {row row' : LoadBalancer} {r : Request}

section Members
variable {info : MemberInfo} {poolId : Str} {p : Protocol}

theorem settles_memberCreate (hk : Kept env h nb) (hp : info.poolId = some poolId)
    (hpool : h.HasPool poolId p) : Table h (handled env (.memberCreate info) nb) ∧
      nb.OnlyNamed h.lbId (handled env (.memberCreate info) nb) := by
  have hw := hk.table.wellFormed
  rcases hk.poolRow hpool with ⟨b, row, value, hfound, hrow, hv⟩ | ⟨⟨key, hfound⟩, -⟩
  · obtain ⟨nb₁, nb₂, hc⟩ := handled_memberCreate env hw hp hfound hv
    have hget := hk.table.get hrow
    have hn := (Nb.mem_lbsNamed.mp hrow).2
    have ht₂ := (hk.table.added hrow hv hc.added).same hc.between
    have ho₂ := (onlyNamed_added hget hn hc.added).trans hc.between.onlyNamed
    rcases hc.status with ⟨hnb, -⟩ | ⟨up, status, -, -, hst⟩
    · exact hnb ▸ ⟨ht₂, ho₂⟩
    · obtain ⟨row₁, hrow₁, -⟩ := (hc.added.row hw hget).2
      obtain ⟨row₂, hrow₂, -⟩ := hc.between.lb? hrow₁
      have hn₂ := ho₂.name_eq hw hget hn hrow₂
      obtain ⟨hm₂, hu₂⟩ := Nb.lb?_eq_some hrow₂
      refine ⟨ht₂.statusWritten (Nb.mem_lbsNamed.mpr ⟨hm₂, hn₂⟩) (hu₂ ▸ hst), ho₂.trans ?_⟩
      exact onlyNamed_statusWritten (fun row₃ hrow₃ => ho₂.name_eq hw hget hn hrow₃) hst
  · rw [handled_memberCreate_of_none (.inr ⟨poolId, key, hp, hfound⟩)]
    exact ⟨hk.table, .refl _ _⟩

theorem settles_memberDelete (hk : Kept env h nb) (hp : info.poolId = some poolId)
    (hpool : h.HasPool poolId p) : Table h (handled env (.memberDelete info) nb) ∧
      nb.OnlyNamed h.lbId (handled env (.memberDelete info) nb) := by
  have hw := hk.table.wellFormed
  rcases hk.poolRow hpool with ⟨b, row, value, hfound, hrow, hv⟩ | ⟨⟨key, hfound⟩, -⟩
  · obtain ⟨nb₁, nb₂, hrem, hbetween, -, hst⟩ := handled_memberDelete env hw hp hfound hv
    have hget := hk.table.get hrow
    have hn := (Nb.mem_lbsNamed.mp hrow).2
    have ht₂ := (hk.table.removed hrow (poolKey_notMem_base poolId b) hv hrem).same hbetween
    have ho₂ := (onlyNamed_removed hw hget hn hrem).trans hbetween.onlyNamed
    obtain ⟨row₁, hrow₁, -⟩ := (hrem.row hw hget).2
    obtain ⟨row₂, hrow₂, -⟩ := hbetween.lb? hrow₁
    have hn₂ := ho₂.name_eq hw hget hn hrow₂
    obtain ⟨hm₂, hu₂⟩ := Nb.lb?_eq_some hrow₂
    refine ⟨ht₂.statusWritten (Nb.mem_lbsNamed.mpr ⟨hm₂, hn₂⟩) (hu₂ ▸ hst), ho₂.trans ?_⟩
    exact onlyNamed_statusWritten (fun row₃ hrow₃ => ho₂.name_eq hw hget hn hrow₃) hst
  · rw [handled_memberDelete_of_none (.inr ⟨poolId, key, hp, hfound⟩)]
    exact ⟨hk.table, .refl _ _⟩

theorem settles_memberUpdate (hk : Kept env h nb) (hp : info.poolId = some poolId)
    (hpool : h.HasPool poolId p) : Table h (handled env (.memberUpdate info) nb) ∧
      nb.OnlyNamed h.lbId (handled env (.memberUpdate info) nb) := by
  cases hup : info.adminStateUp with
  | none =>
      rw [handled_memberUpdate_of_no_state hup]
      exact ⟨hk.table, .refl _ _⟩
  | some up =>
      rcases hk.poolRow hpool with ⟨b, row, value, hfound, hrow, hv⟩ | ⟨⟨key, hfound⟩, -⟩
      · -- whether or not the traffic map is refreshed, the row keeps its keys
        have hput : ∀ vips d, Table h (nb.putLb { row with
              externalIds := withStatuses row.externalIds d, vips }) ∧
            nb.OnlyNamed h.lbId (nb.putLb { row with
              externalIds := withStatuses row.externalIds d, vips }) := by
          intro vips d
          refine ⟨hk.table.putKeys hrow fun k hm hb => ?_, ?_⟩
          · exact (Readable.mem_keys_withStatuses (Readable.withStatuses_ne hb) _ _).mp hm
          · exact Nb.onlyNamed_putLb (hk.table.get hrow) rfl (Nb.mem_lbsNamed.mp hrow).2
        rcases handled_memberUpdate env _ hk.table.wellFormed hp hfound
          (hk.readable row hrow).statuses hup rfl rfl rfl with
          ⟨-, hout⟩ | ⟨-, ⟨-, hout⟩ | ⟨vips, -, hout⟩⟩
        · rw [hout]
          exact hput row.vips _
        · rw [hout]
          exact hput row.vips _
        · rw [hout]
          exact hput vips _
      · rw [handled_memberUpdate_of_none (.inr ⟨poolId, key, hp, hfound⟩)]
        exact ⟨hk.table, .refl _ _⟩

end Members

section Objects

private theorem onlyNamed_provided (hk : Kept env h nb) {p : Protocol} {state : Option Bool}
    (hpr : nb₁ = nb ∨ ∃ up, state = some up ∧ Provided env h.lbId p up nb nb₁) :
    nb.OnlyNamed h.lbId nb₁ := by
  rcases hpr with rfl | ⟨up, -, hpr⟩
  · exact .refl _ _
  · exact hpr.onlyNamed hk.table.wellFormed

theorem onlyNamed_listenerCreate (hk : Kept env h nb) {info : ListenerInfo}
    (hlb : info.loadbalancerId = h.lbId) :
    nb.OnlyNamed h.lbId (handled env (.listenerCreate info) nb) := by
  obtain ⟨nb₁, hpr, hout⟩ := handled_listenerCreate env hk.table.wellFormed info
  rw [hlb] at hpr hout
  have ho₁ := hk.onlyNamed_provided hpr
  rcases hout with hout | ⟨up, row, vips, -, hrow, -, -, hs⟩
  · rw [hout]
    exact ho₁
  · have hput : nb₁.OnlyNamed h.lbId (nb₁.putLb (createdListener info up row vips)) :=
      Nb.onlyNamed_putLb ((hk.table.of_provided hpr).get hrow) rfl (Nb.mem_lbsNamed.mp hrow).2
    exact ho₁.trans (hput.trans hs.onlyNamed)

theorem onlyNamed_listenerDelete (hk : Kept env h nb) {info : ListenerInfo}
    (hlb : info.loadbalancerId = h.lbId) :
    nb.OnlyNamed h.lbId (handled env (.listenerDelete info) nb) := by
  rcases handled_listenerDelete env hk.table.wellFormed info with ⟨e, -, hout⟩ | ⟨row, hsel, hout⟩
  · rw [hout]
    exact .refl _ _
  · rw [hlb] at hsel
    have hrow := (selectOvnLb_ok hsel).1
    rcases hout with ⟨hout, -⟩ | ⟨-, hout⟩ | ⟨vips, -, hout⟩
    · rw [hout]
      exact .refl _ _
    · rw [hout]
      exact Nb.onlyNamed_deleteLb _
    · rw [hout]
      refine Nb.onlyNamed_cleaned (hk.table.get hrow) ?_ ?_ _ _
      · rfl
      · exact (Nb.mem_lbsNamed.mp hrow).2

theorem onlyNamed_listenerUpdate (hk : Kept env h nb) {info : ListenerInfo}
    (hlb : info.loadbalancerId = h.lbId) :
    nb.OnlyNamed h.lbId (handled env (.listenerUpdate info) nb) := by
  rcases handled_listenerUpdate env hk.table.wellFormed info with ⟨e, -, hout⟩ | ⟨row, hsel, hout⟩
  · rw [hout]
    exact .refl _ _
  · rw [hlb] at hsel
    have hrow := (selectOvnLb_ok hsel).1
    rcases hout with ⟨hout, -⟩ | ⟨key, value, -, -, ⟨-, hout⟩ | ⟨vips, -, hout⟩⟩
    · rw [hout]
      exact .refl _ _
    · rw [hout]
      exact .refl _ _
    · rw [hout]
      exact Nb.onlyNamed_putLb (hk.table.get hrow) rfl (Nb.mem_lbsNamed.mp hrow).2

theorem onlyNamed_poolCreate (hk : Kept env h nb) {info : PoolInfo}
    (hlb : info.loadbalancerId = h.lbId) :
    nb.OnlyNamed h.lbId (handled env (.poolCreate info) nb) := by
  obtain ⟨nb₁, hpr, hout⟩ := handled_poolCreate env hk.table.wellFormed info
  rw [hlb] at hpr hout
  have ho₁ := hk.onlyNamed_provided hpr
  rcases hout with ⟨hout, -⟩ | ⟨up, row, options, -, hrow, -, hout⟩
  · rw [hout]
    exact ho₁
  · rw [hout]
    refine ho₁.trans ?_
    exact Nb.onlyNamed_putLb ((hk.table.of_provided hpr).get hrow) rfl (Nb.mem_lbsNamed.mp hrow).2

theorem onlyNamed_poolDelete (hk : Kept env h nb) {info : PoolInfo}
    (hlb : info.loadbalancerId = h.lbId) :
    nb.OnlyNamed h.lbId (handled env (.poolDelete info) nb) := by
  rcases handled_poolDelete env hk.table.wellFormed info with ⟨e, -, hout⟩ | ⟨row, hsel, hout⟩
  · rw [hout]
    exact .refl _ _
  · rw [hlb] at hsel
    have hrow := (selectOvnLb_ok hsel).1
    rcases hout with ⟨-, hout⟩ | ⟨vips, options, -, hout⟩
    · rw [hout]
      exact .refl _ _
    · rw [hout]
      refine Nb.onlyNamed_cleaned (hk.table.get hrow) ?_ ?_ _ _
      · rfl
      · exact (Nb.mem_lbsNamed.mp hrow).2

theorem onlyNamed_poolUpdate (hk : Kept env h nb) {info : PoolInfo}
    (hlb : info.loadbalancerId = h.lbId) :
    nb.OnlyNamed h.lbId (handled env (.poolUpdate info) nb) := by
  cases hup : info.adminStateUp with
  | none =>
      rw [handled_eq, handle, run_map_some]
      exact (sameObjects_run (peripheral_poolUpdate env hup) nb).onlyNamed
  | some up =>
      rcases handled_poolUpdate env hk.table.wellFormed info hup with
        ⟨e, -, hout⟩ | ⟨row, hsel, hout⟩
      · rw [hout]
        exact .refl _ _
      · rw [hlb] at hsel
        have hrow := (selectOvnLb_ok hsel).1
        rcases hout with ⟨-, hout⟩ | ⟨vips, options, -, hout⟩
        · rw [hout]
          exact .refl _ _
        · rw [hout]
          exact Nb.onlyNamed_putLb (hk.table.get hrow) rfl (Nb.mem_lbsNamed.mp hrow).2

end Objects

/-- The requests keep the rows in order and leave the others alone. -/
theorem settles (hk : Kept env h nb) (hr : IsLbRequest env h r) :
    Table (h.next r) (handled env r nb) ∧ nb.OnlyNamed h.lbId (handled env r nb) := by
  have hext := h.extends_next r
  cases r with
  | listenerCreate info =>
      exact ⟨hk.table.listenerCreate hr.1 hr.2.1, hk.onlyNamed_listenerCreate hr.1⟩
  | listenerDelete info =>
      exact ⟨hk.table.listenerDelete hr.1, hk.onlyNamed_listenerDelete hr.1⟩
  | listenerUpdate info =>
      exact ⟨(hk.table.listenerUpdate hr.1 hr.2.1).mono hext, hk.onlyNamed_listenerUpdate hr.1⟩
  | poolCreate info => exact ⟨hk.table.poolCreate hr.1 hr.2.1, hk.onlyNamed_poolCreate hr.1⟩
  | poolDelete info => exact ⟨(hk.table.poolDelete hr.1).mono hext, hk.onlyNamed_poolDelete hr.1⟩
  | poolUpdate info => exact ⟨hk.table.poolUpdate hr.1 hr.2, hk.onlyNamed_poolUpdate hr.1⟩
  | memberCreate info =>
      obtain ⟨poolId, p, d, hp, hpool, -⟩ := hr
      exact (hk.settles_memberCreate hp hpool).imp_left fun ht => ht.mono hext
  | memberUpdate info =>
      obtain ⟨poolId, p, hp, hpool⟩ := hr
      exact (hk.settles_memberUpdate hp hpool).imp_left fun ht => ht.mono hext
  | memberDelete info =>
      obtain ⟨poolId, p, d, hp, hpool, -⟩ := hr
      exact (hk.settles_memberDelete hp hpool).imp_left fun ht => ht.mono hext
  | _ => exact hr.elim

section Reading

/-- A new pool has no key on any row the request meets. -/
theorem notMem_of_fresh (hk : Kept env h nb) {id : Str} (hid : IsUuid id) (hf : id ∉ h.taken)
    (hs : Source env nb h r row) (up : Bool) : getPoolKey id up ∉ row.externalIds.keys := by
  intro hm
  cases hs with
  | present hold hs =>
      rw [Table.mem_keys_of_sameKeys hs.externalIds (poolKey_notMem_base id up)] at hm
      obtain ⟨p, ⟨x, hx, rfl, -⟩, -⟩ := hk.table.pool _ hold id up hid hm
      exact hf (hk.distinct.pool_taken x hx)
  | provided hfirst hup hvip he hv hc hs =>
      rw [Table.mem_keys_of_sameKeys hs.externalIds (poolKey_notMem_base id up), he] at hm
      exact poolKey_notMem_base id up
        (Table.addVipKeys_base _ (Table.baseExternalIds_base _ _ _) _ hm)

theorem readable_of_effect (hk : Kept env h nb) (ht : env.TellsAddresses)
    (hr : IsLbRequest env h r) (hs : Source env nb h r row) (he : Effect env nb r row row') :
    Readable env row'.externalIds := by
  have hrow := hk.readable_of_source ht hs
  cases he with
  | spared h hs => exact hrow.of_sameKeys hs.externalIds
  | listenerCreated hup hf hs =>
      obtain ⟨-, hid, -⟩ := hr
      exact (hrow.set_listener hid _ (isListenerValue_make _ (defaultPoolKey_cases _))).of_sameKeys
        hs.externalIds
  | listenerDeleted hf hs =>
      exact (hrow.erase (listenerKey_notMem_base _ true)).of_sameKeys hs.externalIds
  | listenerUpdated hkey hv hf hs =>
      obtain ⟨up, rfl, -⟩ := Table.presentListenerKey_eq hkey
      exact (hrow.updatedListenerKeys hr.2.1 rfl hv).of_sameKeys hs.externalIds
  | poolCreated hup hsame =>
      obtain ⟨-, hid, hf, hl⟩ := hr
      exact (hrow.poolCreateExternalIds hid hl (hk.notMem_of_fresh hid hf hs _)).of_sameKeys
        hsame.externalIds
  | poolDeleted hf hs => exact (hrow.poolDeletedKeys _).of_sameKeys hs.externalIds
  | poolUpdated hup hf hs => exact (hrow.movedPoolKeys hr.2 _).of_sameKeys hs.externalIds
  | memberCreated hp hv hadd hsame hst =>
      obtain ⟨poolId, p, d, hp', hpool, hd, hwf, -⟩ := hr
      cases hp'.symm.trans hp
      have hadded := (readable_addsMember hrow (hk.isUuid_of_pool hpool) hv hd hwf hadd).of_sameKeys
        hsame.externalIds
      rcases hst with ⟨rfl, -⟩ | ⟨up, status, -, -, rfl⟩
      · exact hadded
      · exact hadded.withStatuses _
  | memberDeleted hp hv hrem hsame hst =>
      obtain ⟨poolId, p, d, hp', hpool, hd, hwf⟩ := hr
      cases hp'.symm.trans hp
      have hremoved := (readable_removesMember hrow (hk.isUuid_of_pool hpool) hv hd hwf
        hrem).of_sameKeys hsame.externalIds
      rw [hst]
      exact hremoved.withStatuses _
  | memberUpdated hp hkey hup hlast hstatus hvips hrow' =>
      rw [hrow']
      exact hrow.withStatuses _

end Reading

theorem taken_next (h : History) (r : Request) {id : Str} (hid : id ∈ h.taken) :
    id ∈ (h.next r).taken := by
  cases r <;> simp only [History.next]
  case listenerCreate info => exact List.mem_cons_of_mem _ hid
  case listenerUpdate info => split <;> exact hid
  case poolCreate info => split <;> exact List.mem_cons_of_mem _ hid
  case poolDelete info => exact hid
  case memberCreate info => exact List.mem_cons_of_mem _ hid
  case memberUpdate info => split <;> exact hid
  all_goals exact hid

/-- A pool of the history after a request was one before, or is the one created. -/
theorem hasPool_next {id : Str} {p : Protocol} (hp : (h.next r).HasPool id p) :
    h.HasPool id p ∨ ∃ info, r = .poolCreate info ∧ info.id = id := by
  cases r <;> simp only [History.next] at hp
  case listenerUpdate info => split at hp <;> exact .inl hp
  case poolCreate info =>
    obtain ⟨x, hx, rfl, rfl⟩ := hp
    have hx' : x ∈ h.pools ++ [⟨info.id, info.protocol⟩] := by
      split at hx <;> exact hx
    rcases List.mem_append.mp hx' with hx' | hx'
    · exact .inl ⟨x, hx', rfl, rfl⟩
    · exact .inr ⟨info, rfl, by rw [List.mem_singleton.mp hx']⟩
  case memberUpdate info => split at hp <;> exact .inl hp
  all_goals exact .inl hp

theorem isFresh_of_lbRequest (hr : IsLbRequest env h r) (hm : ∀ info, r ≠ .memberCreate info) :
    h.IsFresh r := by
  cases r with
  | listenerCreate info => exact hr.2
  | poolCreate info => exact ⟨hr.2.1, hr.2.2.1⟩
  | memberCreate info => exact absurd rfl (hm info)
  | _ => trivial

theorem distinct_next (hk : Kept env h nb) (hr : IsLbRequest env h r) : (h.next r).Distinct := by
  by_cases hm : ∃ info, r = .memberCreate info
  · obtain ⟨info, rfl⟩ := hm
    have hd := hk.distinct
    exact ⟨hd.listeners, hd.pools, hd.listener_uuid, hd.pool_uuid,
      fun l hl => List.mem_cons_of_mem _ (hd.listener_taken l hl),
      fun x hx => List.mem_cons_of_mem _ (hd.pool_taken x hx)⟩
  · exact hk.distinct.next (isFresh_of_lbRequest hr fun info he => hm ⟨info, he⟩)

/-- Every request of the load balancer keeps what the requests rely on. -/
theorem next (hk : Kept env h nb) (ht : env.TellsAddresses) (hr : IsLbRequest env h r) :
    Kept env (h.next r) (handled env r nb) := by
  obtain ⟨htable, hothers⟩ := hk.settles hr
  refine ⟨htable, hk.distinct_next hr, fun row hm => ?_, fun row hm hn id up hid hkey => ?_⟩
  · rw [History.lbId_next] at hm
    obtain ⟨row₀, hs, he⟩ := hk.effect hr hm
    exact hk.readable_of_effect ht hr hs he
  · rw [History.lbId_next] at hn
    obtain ⟨old, hold, hs⟩ := hothers row hm hn
    rw [Table.mem_keys_of_sameKeys hs.externalIds (poolKey_notMem_base id up)] at hkey
    obtain ⟨htaken, hno⟩ := hk.foreign old hold (hs.name ▸ hn) id up hid hkey
    refine ⟨taken_next h r htaken, fun p hp => ?_⟩
    rcases hasPool_next hp with hp | ⟨info, rfl, rfl⟩
    · exact hno p hp
    · exact hr.2.2.1 htaken

section Start
variable {lb : LoadBalancerInfo} {nb₀ : Nb} {operatingStatus : Str} {taken : List Str}

/-- A load balancer that was just created, beside others whose pools have ids in use. -/
theorem start (hw : nb₀.WellFormed) (hnone : nb₀.lbsNamed lb.id = []) (ha : lb.Addressed env)
    (htaken : ∀ row ∈ nb₀.loadBalancers, ∀ id up, IsUuid id →
      getPoolKey id up ∈ row.externalIds.keys → id ∈ taken)
    (hcreate : (lbCreate env lb none).run Nb.apply nb₀ =
      (.ok (lbStatusOf lb.id ACTIVE operatingStatus), nb)) :
    Kept env (History.new lb.id taken) nb := by
  obtain ⟨vip, vipPortId, up, fields, hvip, -, -, hs⟩ := lbCreate_active hcreate
  refine ⟨.start hw hnone hcreate taken, History.distinct_new lb.id taken, fun row hm => ?_,
    fun row hm hn id up hid hkey => ?_⟩
  · obtain ⟨row₁, hrow₁, hsame⟩ := hs.exists_of_mem_named hm
    obtain ⟨new, hnew, -, -, hrows⟩ := lbsNamed_createLb_of_nil hnone
      (addVipKeys lb (baseExternalIds vip vipPortId up)) fields
    have hrow₁' : row₁ ∈ [new] := hrows ▸ hrow₁
    rw [List.mem_singleton.mp hrow₁'] at hsame
    exact (hnew ▸ Readable.addVipKeys ha hvip : Readable env new.externalIds).of_sameKeys
      hsame.externalIds
  · obtain ⟨old, hold, hsame⟩ :=
      (Nb.onlyNamed_createLb _ _ _).trans hs.onlyNamed row hm hn
    rw [Table.mem_keys_of_sameKeys hsame.externalIds (poolKey_notMem_base id up)] at hkey
    exact ⟨htaken old hold id up hid hkey, fun p ⟨x, hx, _⟩ => by cases hx⟩

end Start

end Kept

section Example

/-- A member on the network of the VIP. -/
def exampleServer : MemberData := ⟨"10.0.0.7".toList, "80".toList, "sub".toList, exampleId 'e'⟩

theorem wellFormed_exampleServer : exampleServer.WellFormed exampleEnv := by
  have hport : exampleServer.port = ['8', '0'] := rfl
  exact ⟨isUuid_exampleId (by decide), rfl, by decide, by rw [hport]; simp, by decide⟩

def exampleServedPool : PoolInfo :=
  { id := exampleId 'c', loadbalancerId := exampleId 'a', protocol := .tcp
    listenerId := some (exampleId 'b'), adminStateUp := some true }

def exampleServedMember : MemberInfo :=
  { id := exampleServer.id, address := some exampleServer.ip
    protocolPort := some exampleServer.port, poolId := some (exampleId 'c')
    subnetId := some exampleServer.subnet, adminStateUp := some true }

def exampleAttached : Nb :=
  handled exampleEnv (.poolCreate exampleServedPool)
    (handled exampleEnv (.listenerCreate exampleListener) exampleCreated)

/-- A load balancer that carries the traffic of one listener to one member. -/
def exampleServing : Nb := handled exampleEnv (.memberCreate exampleServedMember) exampleAttached

example : exampleServing.loadBalancers.map (·.vips.items) =
    [[("10.0.0.2:80".toList, "10.0.0.7:80".toList)]] := by decide +kernel

def exampleMonitor : HmInfo :=
  { id := exampleId 'f', poolId := exampleId 'c', interval := some 5, timeout := some 3
    successCount := some 1, failureCount := some 1, adminStateUp := true }

/-- The same with a health monitor for the pool. -/
def exampleMonitored : Nb := handled exampleEnv (.hmCreate exampleMonitor) exampleServing

end Example

end OvnOctavia
