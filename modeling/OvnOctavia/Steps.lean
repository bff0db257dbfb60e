import OvnOctavia.Kept
import OvnOctavia.ProtocolRows

/-!
Every request on listeners, pools and members keeps the rows in order and
readable, and has one of its effects on every row of the load balancer. One lemma
for each request, from what the request does to the table.
-/

namespace OvnOctavia

section Foreign
variable {name : Str} {nb nb' nb'' : Nb} {row new : LoadBalancer}

/-- The rows with other names have the same objects. -/
def Nb.OnlyNamed (name : Str) (nb nb' : Nb) : Prop :=
  ∀ row' ∈ nb'.loadBalancers, row'.name ≠ name → ∃ row ∈ nb.loadBalancers, row.SameObjects row'

theorem Nb.OnlyNamed.refl (name : Str) (nb : Nb) : nb.OnlyNamed name nb :=
  fun row' hm _ => ⟨row', hm, .refl row'⟩

theorem Nb.OnlyNamed.trans (h : nb.OnlyNamed name nb') (h' : nb'.OnlyNamed name nb'') :
    nb.OnlyNamed name nb'' := by
  intro row'' hm hn
  obtain ⟨row', hm', hs'⟩ := h' row'' hm hn
  obtain ⟨row, hrow, hs⟩ := h row' hm' (hs'.name ▸ hn)
  exact ⟨row, hrow, hs.trans hs'⟩

theorem Nb.SameObjects.onlyNamed (h : nb.SameObjects nb') : nb.OnlyNamed name nb' :=
  fun _ hm _ => h.exists_of_mem hm

theorem Nb.onlyNamed_putLb (h : nb.lb? row.uuid = some row) (hu : new.uuid = row.uuid)
    (hn : new.name = name) : nb.OnlyNamed name (nb.putLb new) := by
  intro row' hm hne
  rcases (Nb.mem_putLb (hu.symm ▸ h)).mp hm with rfl | ⟨hm, -⟩
  · exact absurd hn hne
  · exact ⟨row', hm, .refl row'⟩

theorem Nb.onlyNamed_deleteLb (u : Nat) : nb.OnlyNamed name (nb.deleteLb u) := by
  intro row' hm _
  rw [Nb.loadBalancers_deleteLb] at hm
  exact ⟨row', List.mem_of_mem_filter hm, .refl row'⟩

theorem Nb.onlyNamed_cleaned (h : nb.lb? row.uuid = some row) (hu : new.uuid = row.uuid)
    (hn : new.name = name) (lbId : Str) (isEmpty : Bool) :
    nb.OnlyNamed name (nb.cleaned lbId isEmpty new) := by
  unfold Nb.cleaned
  split
  · split
    · exact Nb.onlyNamed_putLb h hu hn
    · exact Nb.onlyNamed_putLb h hu hn
    · exact Nb.onlyNamed_deleteLb _
  · exact Nb.onlyNamed_putLb h hu hn

theorem Nb.onlyNamed_createLb (protocol : Option Protocol) (externalIds : Dict Str Str)
    (fields : List Str) : nb.OnlyNamed name (nb.createLb name protocol externalIds fields) := by
  intro row' hm hne
  rcases List.mem_append.mp hm with hm | hm
  · exact ⟨row', hm, .refl row'⟩
  · rw [List.mem_singleton.mp hm] at hne
    exact absurd rfl hne

theorem Provided.onlyNamed {env : Env} {p : Protocol} {up : Bool} (hw : nb.WellFormed)
    (h : Provided env name p up nb nb') : nb.OnlyNamed name nb' := by
  cases h with
  | failed hp hs => exact hs.onlyNamed
  | assigned hrow hnone hp =>
      obtain ⟨hm, hn⟩ := Nb.mem_lbsNamed.mp hrow
      exact Nb.onlyNamed_putLb (hw.lb?_of_mem hm) rfl hn
  | created hfirst hp hvip hport hs => exact (Nb.onlyNamed_createLb _ _ _).trans hs.onlyNamed

end Foreign

namespace Table
variable {h : History} {nb nb' : Nb} {row row' : LoadBalancer} {env : Env}

/-- A row gets other values under keys it has. -/
theorem putKeys (ht : Table h nb) (hrow : row ∈ nb.lbsNamed h.lbId) {e vips : Dict Str Str}
    (hk : ∀ k ∈ e.keys, k ∉ baseKeys → k ∈ row.externalIds.keys) :
    Table h (nb.putLb { row with externalIds := e, vips }) := by
  have hh := ht.holds hrow
  refine ht.putLb hrow rfl rfl (.inl rfl) ⟨fun id up hid hm => ?_, fun id up hid hm => ?_⟩
  · exact hh.listener id up hid (hk _ hm (listenerKey_notMem_base id up))
  · exact hh.pool id up hid (hk _ hm (poolKey_notMem_base id up))

theorem mem_keys_set_of_get? {e : Dict Str Str} {key value v k : Str}
    (hv : e.get? key = some value) (hk : k ∈ (e.set key v).keys) : k ∈ e.keys := by
  rcases (Dict.mem_keys_set _ _ _ _).mp hk with rfl | hk
  · exact mem_keys_of_get? hv
  · exact hk

theorem added (ht : Table h nb) (hrow : row ∈ nb.lbsNamed h.lbId) {info : MemberInfo}
    {key value : Str} (hv : row.externalIds.get? key = some value)
    (ha : Added env info key value row nb nb') : Table h nb' := by
  cases ha with
  | incomplete | present | unframed => exact ht
  | added hi hm hf =>
      refine Table.same ?_ ((peripheral_associateMember env info row).sameObjects _)
      exact ht.putKeys hrow fun k hk _ => mem_keys_set_of_get? hv hk

theorem removed (ht : Table h nb) (hrow : row ∈ nb.lbsNamed h.lbId) {info : MemberInfo}
    {key value : Str} (hkey : key ∉ baseKeys) (hv : row.externalIds.get? key = some value)
    (hr : Removed env info key value row nb nb') : Table h nb' := by
  cases hr with
  | incomplete => exact ht
  | absent h hm hs hn => exact ht.same hs
  | unmapped h hmon hr =>
      have hs := (peripheral_updateHmMember env row key (info.address.getD []) true).sameObjects nb
      rw [hr] at hs
      exact ht.same hs
  | unframed h hm hs hrow₀ hf => exact ht.same hs
  | @removed text vips nb₀ nb₁ row₀ hi hm hs hrow₀ hn hf hs₁ hn₁ =>
      have ht₀ := ht.same hs
      obtain ⟨row₀', hrow₀', hsame⟩ := hs.lb? (ht.get hrow)
      rw [hrow₀] at hrow₀'
      cases hrow₀'
      have hmem : row₀ ∈ nb₀.lbsNamed h.lbId :=
        Nb.mem_lbsNamed.mpr ⟨(Nb.lb?_eq_some hrow₀).1,
          hsame.name.trans (Nb.mem_lbsNamed.mp hrow).2⟩
      have hv₀ : row₀.externalIds.get? key = some value := by
        rw [hsame.externalIds.get? key (notMem_peripheralKeys hkey), hv]
      exact (ht₀.putKeys hmem fun k hk _ => mem_keys_set_of_get? hv₀ hk).same hs₁

theorem statusWritten (ht : Table h nb) (hrow : row ∈ nb.lbsNamed h.lbId) {member : Str}
    {status : Option Str} (hs : StatusWritten row.uuid member status nb nb') : Table h nb' := by
  cases hs with
  | unreadable => exact ht
  | @written row₁ statuses hrow₁ hst =>
      rw [ht.get hrow] at hrow₁
      cases hrow₁
      refine ht.putKeys hrow fun k hk hb => ?_
      exact (Readable.mem_keys_withStatuses (Readable.withStatuses_ne hb) _ _).mp hk

end Table

namespace Kept
variable {env : Env} {h : History} {nb : Nb} {row row' : LoadBalancer}

section Selection

theorem select_of_protocol (hk : Kept env h nb) (hrow : row ∈ nb.lbsNamed h.lbId) {p : Protocol}
    (hp : row.protocol = some p) : selectOvnLb p (nb.lbsNamed h.lbId) = .ok row := by
  have hf := (RowsByProtocol.of_table hk.table hk.distinct).find_eq row hrow p hp
  rw [run_findOvnLb] at hf
  exact congrArg Prod.fst hf

theorem select_of_pool (hk : Kept env h nb) (hrow : row ∈ nb.lbsNamed h.lbId) {id : Str}
    {p : Protocol} (hp : h.HasPool id p) {up : Bool}
    (hkey : getPoolKey id up ∈ row.externalIds.keys) :
    selectOvnLb p (nb.lbsNamed h.lbId) = .ok row :=
  hk.select_of_protocol hrow (hk.protocol_of_pool hrow hp hkey)

theorem select_of_listener (hk : Kept env h nb) (hrow : row ∈ nb.lbsNamed h.lbId) {id : Str}
    {p : Protocol} (hid : IsUuid id) (hl : h.HasListener id p) {up : Bool}
    (hkey : getListenerKey id up ∈ row.externalIds.keys) :
    selectOvnLb p (nb.lbsNamed h.lbId) = .ok row := by
  obtain ⟨q, hq, hr⟩ := hk.table.listener row hrow id up hid hkey
  rw [hk.distinct.protocol_of_listener hq hl] at hr
  exact hk.select_of_protocol hrow hr

theorem presentListenerKey_none {e : Dict Str Str} {id : Str}
    (h : presentListenerKey e id = none) (up : Bool) : getListenerKey id up ∉ e.keys := by
  unfold presentListenerKey at h
  rw [← Dict.contains_iff]
  split at h
  · cases h
  · next ht =>
      split at h
      · cases h
      · next hf => cases up <;> assumption

end Selection

section Effects
variable (hk : Kept env h nb)
include hk

omit hk in
private theorem spared {r : Request} (hr : ∀ row ∈ nb.lbsNamed h.lbId, r.Spares row)
    (hrow : row ∈ nb.lbsNamed h.lbId) :
    ∃ row₀, Source env nb h r row₀ ∧ Effect env nb r row₀ row :=
  ⟨row, .present hrow (.refl row), .spared (hr row hrow) (.refl row)⟩

theorem effect_listenerCreate {info : ListenerInfo} (hlb : info.loadbalancerId = h.lbId)
    (hrow : row ∈ (handled env (.listenerCreate info) nb).lbsNamed h.lbId) :
    ∃ row₀, Source env nb h (.listenerCreate info) row₀ ∧
      Effect env nb (.listenerCreate info) row₀ row := by
  obtain ⟨nb₁, hpr, hout⟩ := handled_listenerCreate env hk.table.wellFormed info
  rw [hlb] at hpr hout
  have ht₁ := hk.table.of_provided hpr
  have hsource : ∀ {row}, row ∈ nb₁.lbsNamed h.lbId → Source env nb h (.listenerCreate info) row :=
    fun hm => hk.source_of_provided hpr hm
  rcases hout with hout | ⟨up, new, vips, hup, hnew, hp, hf, hs⟩
  · rw [hout] at hrow
    exact ⟨row, hsource hrow, .spared trivial (.refl row)⟩
  · obtain ⟨row₁, hrow₁, hsame⟩ := hs.exists_of_mem_named hrow
    rcases Nb.named_putLb (ht₁.get hnew) hrow₁ rfl with
      rfl | ⟨hm, -⟩
    · refine ⟨new, hsource hnew, .listenerCreated hup hf ?_⟩
      exact ⟨hsame.vips, hsame.externalIds, hsame.unmonitored⟩
    · exact ⟨row₁, hsource hm, .spared trivial hsame.content⟩

theorem effect_listenerDelete {info : ListenerInfo} (hlb : info.loadbalancerId = h.lbId)
    (hrow : row ∈ (handled env (.listenerDelete info) nb).lbsNamed h.lbId) :
    ∃ row₀, Source env nb h (.listenerDelete info) row₀ ∧
      Effect env nb (.listenerDelete info) row₀ row := by
  have hsp : ∀ row ∈ nb.lbsNamed h.lbId, (Request.listenerDelete info).Spares row :=
    fun _ _ => trivial
  rcases handled_listenerDelete env hk.table.wellFormed info with ⟨e, -, hout⟩ | ⟨old, hsel, hout⟩
  · exact spared hsp (hout ▸ hrow)
  · rw [hlb] at hsel hout
    have hold := (selectOvnLb_ok hsel).1
    rcases hout with ⟨hout, -⟩ | ⟨-, hout⟩ | ⟨vips, hf, hout⟩
    · exact spared hsp (hout ▸ hrow)
    · rw [hout] at hrow
      exact spared hsp (Nb.named_deleteLb hrow).1
    · rw [hout] at hrow
      rcases Nb.named_cleaned (hk.table.get hold) hrow rfl with hs | ⟨hm, -⟩
      · exact ⟨old, .present hold (.refl old), .listenerDeleted hf hs⟩
      · exact spared hsp hm

theorem effect_listenerUpdate {info : ListenerInfo} (hlb : info.loadbalancerId = h.lbId)
    (hid : IsUuid info.id) (hl : h.HasListener info.id info.protocol)
    (hrow : row ∈ (handled env (.listenerUpdate info) nb).lbsNamed h.lbId) :
    ∃ row₀, Source env nb h (.listenerUpdate info) row₀ ∧
      Effect env nb (.listenerUpdate info) row₀ row := by
  -- a row with the listener's key is the one that is found
  have hfind : ∀ row ∈ nb.lbsNamed h.lbId, ∀ up, getListenerKey info.id up ∈ row.externalIds.keys →
      selectOvnLb info.protocol (nb.lbsNamed h.lbId) = .ok row :=
    fun row hm up hkey => hk.select_of_listener hm hid hl hkey
  rcases handled_listenerUpdate env hk.table.wellFormed info with ⟨e, hsel, hout⟩ |
    ⟨old, hsel, hout⟩
  · rw [hlb] at hsel
    refine spared (fun row hm => .inr fun up hkey => ?_) (hout ▸ hrow)
    rw [hfind row hm up hkey] at hsel
    cases hsel
  · rw [hlb] at hsel
    have hold := (selectOvnLb_ok hsel).1
    have hother : ∀ row ∈ nb.lbsNamed h.lbId, row ≠ old →
      (Request.listenerUpdate info).Spares row := by
      refine fun row hm hne => .inr fun up hkey => hne ?_
      rw [hfind row hm up hkey] at hsel
      exact Except.ok.inj hsel
    rcases hout with ⟨hout, hn⟩ | ⟨key, value, hkey, hv, hout⟩
    · refine spared (fun row hm => ?_) (hout ▸ hrow)
      rcases hn with hn | hn
      · exact .inl hn.2
      · by_cases he : row = old
        · exact .inr fun up => he ▸ presentListenerKey_none hn up
        · exact hother row hm he
    · rcases hout with ⟨⟨e, hf⟩, hout⟩ | ⟨vips, hf, hout⟩
      · -- the new keys are readable, so their map exists
        obtain ⟨up, rfl, -⟩ := Table.presentListenerKey_eq hkey
        have hr := hk.readable old hold
        obtain ⟨v, hok⟩ := hr.frame_ok (hr.updatedListenerKeys hid rfl hv)
        rw [hok] at hf
        cases hf
      · rw [hout] at hrow
        rcases Nb.named_putLb (hk.table.get hold) hrow rfl with rfl | ⟨hm, hu⟩
        · exact ⟨old, .present hold (.refl old), .listenerUpdated hkey hv hf (.refl _)⟩
        · exact ⟨row, .present hm (.refl row),
            .spared (hother row hm fun he => hu (he ▸ rfl)) (.refl row)⟩

theorem effect_poolCreate {info : PoolInfo} (hlb : info.loadbalancerId = h.lbId)
    (hrow : row ∈ (handled env (.poolCreate info) nb).lbsNamed h.lbId) :
    ∃ row₀, Source env nb h (.poolCreate info) row₀ ∧
      Effect env nb (.poolCreate info) row₀ row := by
  obtain ⟨nb₁, hpr, hout⟩ := handled_poolCreate env hk.table.wellFormed info
  rw [hlb] at hpr hout
  have ht₁ := hk.table.of_provided hpr
  have hsource : ∀ {row}, row ∈ nb₁.lbsNamed h.lbId → Source env nb h (.poolCreate info) row :=
    fun hm => hk.source_of_provided hpr hm
  rcases hout with ⟨hout, -⟩ | ⟨up, new, options, hup, hnew, hp, hout⟩
  · rw [hout] at hrow
    exact ⟨row, hsource hrow, .spared trivial (.refl row)⟩
  · rw [hout] at hrow
    rcases Nb.named_putLb (ht₁.get hnew) hrow rfl with rfl | ⟨hm, -⟩
    · exact ⟨new, hsource hnew, .poolCreated hup ⟨rfl, .refl _, id⟩⟩
    · exact ⟨row, hsource hm, .spared trivial (.refl row)⟩

theorem effect_poolDelete {info : PoolInfo} (hlb : info.loadbalancerId = h.lbId)
    (hp : h.HasPool info.id info.protocol)
    (hrow : row ∈ (handled env (.poolDelete info) nb).lbsNamed h.lbId) :
    ∃ row₀, Source env nb h (.poolDelete info) row₀ ∧
      Effect env nb (.poolDelete info) row₀ row := by
  rcases handled_poolDelete env hk.table.wellFormed info with ⟨e, hsel, hout⟩ | ⟨old, hsel, hout⟩
  · rw [hlb] at hsel
    refine spared (fun row hm up hkey => ?_) (hout ▸ hrow)
    rw [hk.select_of_pool hm hp hkey] at hsel
    cases hsel
  · rw [hlb] at hsel hout
    have hold := (selectOvnLb_ok hsel).1
    rcases hout with ⟨⟨e, hf⟩, -⟩ | ⟨vips, options, hf, hout⟩
    · have hr := hk.readable old hold
      obtain ⟨v, hok⟩ := hr.frame_ok (hr.erase (poolKey_notMem_base info.id true))
      rw [hok] at hf
      cases hf
    · rw [hout] at hrow
      rcases Nb.named_cleaned (hk.table.get hold) hrow rfl with hs | ⟨hm, hu⟩
      · exact ⟨old, .present hold (.refl old),
          .poolDeleted hf ⟨hs.vips, hs.externalIds, hs.unmonitored⟩⟩
      · refine ⟨row, .present hm (.refl row), .spared (fun up hkey => hu ?_) (.refl row)⟩
        rw [hk.select_of_pool hm hp hkey] at hsel
        rw [Except.ok.inj hsel]

theorem effect_poolUpdate {info : PoolInfo} (hlb : info.loadbalancerId = h.lbId)
    (hrow : row ∈ (handled env (.poolUpdate info) nb).lbsNamed h.lbId) :
    ∃ row₀, Source env nb h (.poolUpdate info) row₀ ∧
      Effect env nb (.poolUpdate info) row₀ row := by
  have hsp : ∀ row ∈ nb.lbsNamed h.lbId, (Request.poolUpdate info).Spares row := fun _ _ => trivial
  cases hup : info.adminStateUp with
  | none =>
      have hs : nb.SameObjects (handled env (.poolUpdate info) nb) := by
        rw [handled_eq, handle, run_map_some]
        exact sameObjects_run (peripheral_poolUpdate env hup) nb
      obtain ⟨old, hold, hsame⟩ := hs.exists_of_mem_named hrow
      exact ⟨old, .present hold (.refl old), .spared trivial hsame.content⟩
  | some up =>
      rcases handled_poolUpdate env hk.table.wellFormed info hup with
        ⟨e, -, hout⟩ | ⟨old, hsel, hout⟩
      · exact spared hsp (hout ▸ hrow)
      · rw [hlb] at hsel
        have hold := (selectOvnLb_ok hsel).1
        rcases hout with ⟨-, hout⟩ | ⟨vips, options, hf, hout⟩
        · exact spared hsp (hout ▸ hrow)
        · rw [hout] at hrow
          rcases Nb.named_putLb (hk.table.get hold) hrow rfl with rfl | ⟨hm, -⟩
          · exact ⟨old, .present hold (.refl old), .poolUpdated hup hf ⟨rfl, .refl _, id⟩⟩
          · exact spared hsp hm

end Effects

end Kept

end OvnOctavia
