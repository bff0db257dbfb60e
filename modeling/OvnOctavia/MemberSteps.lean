import OvnOctavia.Steps

/-!
The requests on members: each has one of its effects on the row of the pool and
leaves the other rows. With the requests on listeners and pools, every request of
a load balancer then has one of its effects on each of its rows.
-/

namespace OvnOctavia

section Changes
variable {name : Str} {u : Nat} {P Q : LoadBalancer → Prop} {nb nb₁ nb₂ : Nb}
  {row row₁ new : LoadBalancer}

/-- Of the rows with the name, the one with the identifier satisfies `P` and the
others have kept their content. -/
def Nb.ChangesRow (name : Str) (u : Nat) (P : LoadBalancer → Prop) (nb nb₁ : Nb) : Prop :=
  ∀ row₁ ∈ nb₁.lbsNamed name, (row₁.uuid = u ∧ P row₁) ∨
    row₁.uuid ≠ u ∧ ∃ old ∈ nb.lbsNamed name, old.uuid = row₁.uuid ∧ old.SameContent row₁

theorem Nb.ChangesRow.refl (hw : nb.WellFormed) (hrow : nb.lb? u = some row) (hp : P row) :
    nb.ChangesRow name u P nb := by
  intro row₁ hm
  obtain ⟨hrow, hu⟩ := Nb.lb?_eq_some hrow
  by_cases he : row₁.uuid = u
  · rw [hw.eq_of_uuid (Nb.mem_lbsNamed.mp hm).1 hrow (he.trans hu.symm)]
    exact .inl ⟨hu, hp⟩
  · exact .inr ⟨he, row₁, hm, rfl, .refl row₁⟩

theorem Nb.ChangesRow.mono (h : nb.ChangesRow name u P nb₁) (hpq : ∀ row, P row → Q row) :
    nb.ChangesRow name u Q nb₁ :=
  fun row hm => (h row hm).imp_left fun ⟨hu, hp⟩ => ⟨hu, hpq row hp⟩

theorem Nb.ChangesRow.same (h : nb.ChangesRow name u P nb₁) (hs : nb₁.SameObjects nb₂)
    (hq : ∀ row row', P row → row.SameContent row' → Q row') : nb.ChangesRow name u Q nb₂ := by
  intro row₂ hm
  obtain ⟨row₁, hrow₁, hsame⟩ := hs.exists_of_mem_named hm
  rcases h row₁ hrow₁ with ⟨hu, hp₁⟩ | ⟨hu, old, hold, ho, hc⟩
  · exact .inl ⟨hsame.uuid.trans hu, hq row₁ row₂ hp₁ hsame.content⟩
  · exact .inr ⟨hsame.uuid ▸ hu, old, hold, ho.trans hsame.uuid.symm, hc.trans hsame.content⟩

theorem Nb.ChangesRow.putLb (h : nb.ChangesRow name u P nb₁) (hrow : nb₁.lb? u = some row₁)
    (hu : new.uuid = u) (hn : new.name = row₁.name) (hq : P row₁ → Q new) :
    nb.ChangesRow name u Q (nb₁.putLb new) := by
  intro row₂ hm
  obtain ⟨hm, hname⟩ := Nb.mem_lbsNamed.mp hm
  obtain ⟨hrow₁, hu₁⟩ := Nb.lb?_eq_some hrow
  rcases (Nb.mem_putLb (hu.symm ▸ hrow)).mp hm with rfl | ⟨hm, hne⟩
  · rcases h row₁ (Nb.mem_lbsNamed.mpr ⟨hrow₁, hn ▸ hname⟩) with ⟨-, hp⟩ | ⟨hne, -⟩
    · exact .inl ⟨hu, hq hp⟩
    · exact absurd hu₁ hne
  · rcases h row₂ (Nb.mem_lbsNamed.mpr ⟨hm, hname⟩) with ⟨he, -⟩ | hother
    · exact absurd (he.trans hu.symm) hne
    · exact .inr hother

end Changes

namespace Kept
variable {env : Env} {h : History} {nb nb₁ nb₂ nb' : Nb} {row row₁ row' : LoadBalancer}
  {info : MemberInfo} {d : MemberData} {poolId value : Str} {up : Bool}

section Values

theorem isPoolValue_append (hv : IsPoolValue env value) (hd : d.WellFormed env) :
    IsPoolValue env (Str.join ',' (poolItems value ++ [d.text])) := by
  obtain ⟨ds, rfl, hds⟩ := hv
  refine ⟨ds ++ [d], poolValue_append hds d, fun a ha => ?_⟩
  rcases List.mem_append.mp ha with ha | ha
  · exact hds a ha
  · rw [List.mem_singleton.mp ha]
    exact hd

theorem isPoolValue_erase (hv : IsPoolValue env value) (hd : d.WellFormed env)
    (hm : d.text ∈ value.splitOn ',') :
    IsPoolValue env (Str.join ',' ((value.splitOn ',').erase d.text)) := by
  obtain ⟨ds, rfl, hds⟩ := hv
  rw [mem_splitOn_poolValue hds hd] at hm
  exact ⟨ds.erase d, poolValue_erase hds hd hm, fun a ha => hds a (List.mem_of_mem_erase ha)⟩

theorem otherKey_notMem (hr : Readable env row.externalIds) (hid : IsUuid poolId)
    (hv : row.externalIds.get? (getPoolKey poolId up) = some value) :
    getPoolKey poolId (!up) ∉ row.externalIds.keys := by
  have hsole := hr.sole poolId hid
  have hm := mem_keys_of_get? hv
  cases up with
  | true => exact hsole hm
  | false => exact fun ht => hsole ht hm

end Values

section Adding

theorem readable_addsMember (hr : Readable env row.externalIds) (hid : IsUuid poolId)
    (hv : row.externalIds.get? (getPoolKey poolId up) = some value) (hd : info.Describes d)
    (hwf : d.WellFormed env) (ha : AddsMember env info (getPoolKey poolId up) value row row₁) :
    Readable env row₁.externalIds := by
  rcases ha with ⟨text, -, -, rfl⟩ | ⟨text, vips, hi, hm, hf, rfl⟩
  · exact hr
  · cases hd.text.symm.trans hi
    exact hr.set_pool hid (otherKey_notMem hr hid hv)
      (isPoolValue_append (hr.pool _ _ _ hid hv) hwf)

theorem changesRow_added (hw : nb.WellFormed) (hget : nb.lb? row.uuid = some row)
    (hr : Readable env row.externalIds) (hid : IsUuid poolId)
    (hv : row.externalIds.get? (getPoolKey poolId up) = some value) (hd : info.Describes d)
    (hwf : d.WellFormed env) (ha : Added env info (getPoolKey poolId up) value row nb nb₁)
    (name : Str) : nb.ChangesRow name row.uuid (fun r => ∃ a,
      AddsMember env info (getPoolKey poolId up) value row a ∧ a.SameContent r) nb₁ := by
  cases ha with
  | incomplete hi =>
      rw [hd.text] at hi
      cases hi
  | present hi hm => exact .refl hw hget ⟨row, .inl ⟨_, hi, hm, rfl⟩, .refl row⟩
  | unframed hi hup hf =>
      cases hd.text.symm.trans hi
      obtain ⟨vips, hok⟩ := hr.frame_ok (hr.set_pool hid (otherKey_notMem hr hid hv)
        (isPoolValue_append (hr.pool _ _ _ hid hv) hwf))
      rw [hok] at hf
      cases hf
  | @added text vips hi hm hf =>
      have hput : nb.ChangesRow name row.uuid
          (AddsMember env info (getPoolKey poolId up) value row) (nb.putLb { row with
            externalIds := row.externalIds.set (getPoolKey poolId up)
              (Str.join ',' (poolItems value ++ [text]))
            vips }) :=
        .putLb (.refl hw hget trivial : nb.ChangesRow name row.uuid (fun _ => True) nb) hget rfl rfl
          fun _ => .inr ⟨text, vips, hi, hm, hf, rfl⟩
      exact hput.same ((peripheral_associateMember env info row).sameObjects _)
        fun r _ hadd hs => ⟨r, hadd, hs⟩

end Adding

section Removing

theorem readable_removesMember (hr : Readable env row.externalIds) (hid : IsUuid poolId)
    (hv : row.externalIds.get? (getPoolKey poolId up) = some value) (hd : info.Describes d)
    (hwf : d.WellFormed env)
    (ha : RemovesMember env nb info (getPoolKey poolId up) value row row₁) :
    Readable env row₁.externalIds := by
  rcases ha with ⟨rfl, -⟩ | ⟨text, row₀, vips, hi, hm, hs, hf, rfl⟩
  · exact hr
  · cases hd.text.symm.trans hi
    have hr₀ := hr.of_sameKeys hs.externalIds
    have hv₀ : row₀.externalIds.get? (getPoolKey poolId up) = some value :=
      (samePools_of_sameKeys hs.externalIds poolId up).trans hv
    exact hr₀.set_pool hid (otherKey_notMem hr₀ hid hv₀)
      (isPoolValue_erase (hr.pool _ _ _ hid hv) hwf hm)

theorem changesRow_removed (hw : nb.WellFormed) (hget : nb.lb? row.uuid = some row)
    (hr : Readable env row.externalIds) (hid : IsUuid poolId)
    (hv : row.externalIds.get? (getPoolKey poolId up) = some value) (hd : info.Describes d)
    (hwf : d.WellFormed env) (ha : Removed env info (getPoolKey poolId up) value row nb nb₁)
    (name : Str) : nb.ChangesRow name row.uuid (fun r => ∃ a,
      RemovesMember env nb info (getPoolKey poolId up) value row a ∧ a.SameContent r) nb₁ := by
  have hkept : RemovesMember env nb info (getPoolKey poolId up) value row row → nb.SameObjects nb₁ →
      nb.ChangesRow name row.uuid (fun r => ∃ a,
        RemovesMember env nb info (getPoolKey poolId up) value row a ∧ a.SameContent r) nb₁ :=
    fun hrem hs => (.refl hw hget hrem : nb.ChangesRow name row.uuid
      (RemovesMember env nb info (getPoolKey poolId up) value row) nb).same hs
        fun r _ hrem hs => ⟨r, hrem, hs⟩
  cases ha with
  | incomplete hi =>
      rw [hd.text] at hi
      cases hi
  | absent hi hm hs hn => exact hkept (.inl ⟨rfl, .inl ⟨_, hi, hm⟩⟩) hs
  | unmapped hi hmon hrun =>
      have hs := (peripheral_updateHmMember env row (getPoolKey poolId up) (info.address.getD [])
        true).sameObjects nb
      rw [hrun] at hs
      exact hkept (.inl ⟨rfl, .inr ⟨hmon, _, _, hrun⟩⟩) hs
  | unframed hi hm hs hrow₀ hf =>
      cases hd.text.symm.trans hi
      obtain ⟨row₀', hrow₀', hsame⟩ := hs.lb? hget
      rw [hrow₀] at hrow₀'
      cases hrow₀'
      obtain ⟨vips, hok⟩ := (hr.of_sameKeys hsame.externalIds).frame_ok
        (hr.set_pool hid (otherKey_notMem hr hid hv)
          (isPoolValue_erase (hr.pool _ _ _ hid hv) hwf hm))
      rw [hok] at hf
      cases hf
  | @removed text vips nb₀ _ row₀ hi hm hs hrow₀ hn hf hs₁ hn₁ =>
      have h₀ : nb.ChangesRow name row.uuid row.SameContent nb₀ :=
        (.refl hw hget (.refl row) : nb.ChangesRow name row.uuid row.SameContent nb).same hs
          fun _ _ => .trans
      have hput : nb.ChangesRow name row.uuid
          (RemovesMember env nb info (getPoolKey poolId up) value row) (nb₀.putLb { row₀ with
            externalIds := row₀.externalIds.set (getPoolKey poolId up)
              (Str.join ',' ((value.splitOn ',').erase text))
            vips }) :=
        h₀.putLb hrow₀ (Nb.lb?_eq_some hrow₀).2 rfl
          fun hc => .inr ⟨text, row₀, vips, hi, hm, hc, hf, rfl⟩
      exact hput.same hs₁ fun r _ hrem hs => ⟨r, hrem, hs⟩

end Removing

section Statuses

theorem changesRow_statusWritten {name : Str} {u : Nat} {P : LoadBalancer → Prop}
    (hc : nb.ChangesRow name u P nb₂) (hw : nb₂.WellFormed)
    (hr : ∀ r, P r → Readable env r.externalIds) {member : Str} {status : Option Str}
    (hs : StatusWritten u member status nb₂ nb') :
    nb.ChangesRow name u (fun r => ∃ r₂, P r₂ ∧ r = r₂.record member status) nb' := by
  cases hs with
  | @unreadable row₂ e hrow₂ he =>
      intro r hm
      rcases hc r hm with ⟨hu, hp⟩ | hother
      · obtain ⟨hmem, hu₂⟩ := Nb.lb?_eq_some hrow₂
        rw [hw.eq_of_uuid (Nb.mem_lbsNamed.mp hm).1 hmem (hu.trans hu₂.symm)] at hp
        rw [(hr row₂ hp).statuses] at he
        cases he
      · exact .inr hother
  | @written row₂ statuses hrow₂ hst =>
      refine hc.putLb hrow₂ (Nb.lb?_eq_some hrow₂).2 rfl fun hp => ⟨row₂, hp, ?_⟩
      rw [LoadBalancer.record, statusesIn, hst]

end Statuses

section Effects
variable (hk : Kept env h nb)
include hk

/-- What a request does to the row of its pool is its effect, the other rows are
left alone. -/
theorem effect_of_changesRow {r : Request} {p : Protocol} (hpool : h.HasPool poolId p)
    (hrow : row ∈ nb.lbsNamed h.lbId)
    (hkey : getPoolKey poolId up ∈ row.externalIds.keys)
    (hspare : ∀ old, (∀ b, getPoolKey poolId b ∉ old.externalIds.keys) → r.Spares old)
    (hc : nb.ChangesRow h.lbId row.uuid (Effect env nb r row) nb')
    (hm : row' ∈ nb'.lbsNamed h.lbId) :
    ∃ row₀, Source env nb h r row₀ ∧ Effect env nb r row₀ row' := by
  rcases hc row' hm with ⟨-, he⟩ | ⟨hne, old, hold, ho, hs⟩
  · exact ⟨row, .present hrow (.refl row), he⟩
  · refine ⟨old, .present hold (.refl old), .spared (hspare old fun b hb => hne ?_) hs⟩
    rw [← ho, (hk.pool_unique hold hrow hpool hb hkey).1]

theorem effect_memberCreate {p : Protocol} (hp : info.poolId = some poolId)
    (hpool : h.HasPool poolId p) (hd : info.Describes d) (hwf : d.WellFormed env)
    (hup : info.adminStateUp.isSome)
    (hm : row' ∈ (handled env (.memberCreate info) nb).lbsNamed h.lbId) :
    ∃ row₀, Source env nb h (.memberCreate info) row₀ ∧
      Effect env nb (.memberCreate info) row₀ row' := by
  have hw := hk.table.wellFormed
  have hspare : ∀ old : LoadBalancer, (∀ b, getPoolKey poolId b ∉ old.externalIds.keys) →
      (Request.memberCreate info).Spares old := by
    intro old hn x hx
    cases hp.symm.trans hx
    exact hn
  rcases hk.poolRow hpool with ⟨b, row, value, hfound, hrow, hv⟩ | ⟨⟨key, hfound⟩, hnone⟩
  · obtain ⟨nb₁, nb₂, hc⟩ := handled_memberCreate env hw hp hfound hv
    have hr := hk.readable row hrow
    have hid := hk.isUuid_of_pool hpool
    have hget := hk.table.get hrow
    have h₂ := (changesRow_added hw hget hr hid hv hd hwf hc.added h.lbId).same hc.between
      fun r r' ⟨a, hadd, hs⟩ hs' => (⟨a, hadd, hs.trans hs'⟩ : ∃ a,
        AddsMember env info (getPoolKey poolId b) value row a ∧ a.SameContent r')
    refine hk.effect_of_changesRow hpool hrow (mem_keys_of_get? hv) hspare ?_ hm
    rcases hc.status with ⟨hnb, hst⟩ | ⟨st, status, hst, hoff, hwritten⟩
    · rw [hnb]
      refine h₂.mono fun r ⟨a, hadd, hs⟩ => .memberCreated hp hv hadd hs (.inl ⟨rfl, ?_⟩)
      rcases hst with hst | hst
      · rw [hst] at hup
        cases hup
      · exact hst
    · have hw₂ := hc.between.wellFormed (hc.added.row hw hget).1
      have h' := changesRow_statusWritten h₂ hw₂ (fun r ⟨a, hadd, hs⟩ =>
        (readable_addsMember hr hid hv hd hwf hadd).of_sameKeys hs.externalIds) hwritten
      exact h'.mono fun r ⟨r₂, ⟨a, hadd, hs⟩, he⟩ =>
        .memberCreated hp hv hadd hs (.inr ⟨st, status, hst, hoff, he⟩)
  · rw [handled_memberCreate_of_none (.inr ⟨poolId, key, hp, hfound⟩)] at hm
    exact ⟨row', .present hm (.refl row'), .spared (hspare row' (hnone row' hm)) (.refl row')⟩

theorem effect_memberDelete {p : Protocol} (hp : info.poolId = some poolId)
    (hpool : h.HasPool poolId p) (hd : info.Describes d) (hwf : d.WellFormed env)
    (hm : row' ∈ (handled env (.memberDelete info) nb).lbsNamed h.lbId) :
    ∃ row₀, Source env nb h (.memberDelete info) row₀ ∧
      Effect env nb (.memberDelete info) row₀ row' := by
  have hw := hk.table.wellFormed
  have hspare : ∀ old : LoadBalancer, (∀ b, getPoolKey poolId b ∉ old.externalIds.keys) →
      (Request.memberDelete info).Spares old := by
    intro old hn x hx
    cases hp.symm.trans hx
    exact hn
  rcases hk.poolRow hpool with ⟨b, row, value, hfound, hrow, hv⟩ | ⟨⟨key, hfound⟩, hnone⟩
  · obtain ⟨nb₁, nb₂, hrem, hbetween, -, hwritten⟩ := handled_memberDelete env hw hp hfound hv
    have hr := hk.readable row hrow
    have hid := hk.isUuid_of_pool hpool
    have hget := hk.table.get hrow
    have h₂ := (changesRow_removed hw hget hr hid hv hd hwf hrem h.lbId).same hbetween
      fun r r' ⟨a, hadd, hs⟩ hs' => (⟨a, hadd, hs.trans hs'⟩ : ∃ a,
        RemovesMember env nb info (getPoolKey poolId b) value row a ∧ a.SameContent r')
    have h' := changesRow_statusWritten h₂ (hbetween.wellFormed (hrem.row hw hget).1)
      (fun r ⟨a, hadd, hs⟩ =>
        (readable_removesMember hr hid hv hd hwf hadd).of_sameKeys hs.externalIds) hwritten
    exact hk.effect_of_changesRow hpool hrow (mem_keys_of_get? hv) hspare
      (h'.mono fun r ⟨r₂, ⟨a, hadd, hs⟩, he⟩ => .memberDeleted hp hv hadd hs he) hm
  · rw [handled_memberDelete_of_none (.inr ⟨poolId, key, hp, hfound⟩)] at hm
    exact ⟨row', .present hm (.refl row'), .spared (hspare row' (hnone row' hm)) (.refl row')⟩

theorem effect_memberUpdate {p : Protocol} (hp : info.poolId = some poolId)
    (hpool : h.HasPool poolId p)
    (hm : row' ∈ (handled env (.memberUpdate info) nb).lbsNamed h.lbId) :
    ∃ row₀, Source env nb h (.memberUpdate info) row₀ ∧
      Effect env nb (.memberUpdate info) row₀ row' := by
  have hw := hk.table.wellFormed
  cases hup : info.adminStateUp with
  | none =>
      rw [handled_memberUpdate_of_no_state hup] at hm
      exact ⟨row', .present hm (.refl row'), .spared (.inl hup) (.refl row')⟩
  | some st =>
      have hspare : ∀ old : LoadBalancer, (∀ b, getPoolKey poolId b ∉ old.externalIds.keys) →
          (Request.memberUpdate info).Spares old := by
        intro old hn
        refine .inr fun x hx => ?_
        cases hp.symm.trans hx
        exact hn
      rcases hk.poolRow hpool with ⟨b, row, value, hfound, hrow, hv⟩ | ⟨⟨key, hfound⟩, hnone⟩
      · have hr := hk.readable row hrow
        have hget := hk.table.get hrow
        have hkey := mem_keys_of_get? hv
        have hput : ∀ vips, (¬IsToggled
          (((statusesIn row.externalIds).get? info.id).getD NO_MONITOR)
            (updatedStatus row (((statusesIn row.externalIds).get? info.id).getD NO_MONITOR) st) ∧
              vips = row.vips ∨
            frameVipIps env (row.record info.id (some (updatedStatus row
              (((statusesIn row.externalIds).get? info.id).getD NO_MONITOR) st))).externalIds
              (row.record info.id (some (updatedStatus row
              (((statusesIn row.externalIds).get? info.id).getD NO_MONITOR) st))).externalIds =
                .ok vips) →
            nb.ChangesRow h.lbId row.uuid (Effect env nb (.memberUpdate info) row)
              (nb.putLb { row.record info.id (some (updatedStatus row
                (((statusesIn row.externalIds).get? info.id).getD NO_MONITOR) st)) with vips }) :=
          fun vips hvips => .putLb (.refl hw hget trivial :
            nb.ChangesRow h.lbId row.uuid (fun _ => True) nb) hget rfl rfl fun _ =>
              .memberUpdated hp hkey hup rfl rfl hvips rfl
        refine hk.effect_of_changesRow hpool hrow hkey hspare ?_ hm
        rcases handled_memberUpdate env _ hw hp hfound hr.statuses hup rfl rfl rfl with
          ⟨ht, hout⟩ | ⟨ht, ⟨⟨x, hx⟩, -⟩ | ⟨vips, hf, hout⟩⟩
        · rw [hout]
          exact hput row.vips (.inl ⟨ht, rfl⟩)
        · have hr' := hr.withStatuses ((statusesIn row.externalIds).set info.id (updatedStatus row
            (((statusesIn row.externalIds).get? info.id).getD NO_MONITOR) st))
          obtain ⟨vips, hok⟩ := hr'.frame_ok hr'
          rw [hok] at hx
          cases hx
        · rw [hout]
          exact hput vips (.inr hf)
      · rw [handled_memberUpdate_of_none (.inr ⟨poolId, key, hp, hfound⟩)] at hm
        exact ⟨row', .present hm (.refl row'), .spared (hspare row' (hnone row' hm)) (.refl row')⟩

/-- Every request of a load balancer has one of its effects on each of its rows. -/
theorem effect {r : Request} (hr : IsLbRequest env h r)
    (hm : row' ∈ (handled env r nb).lbsNamed h.lbId) :
    ∃ row₀, Source env nb h r row₀ ∧ Effect env nb r row₀ row' := by
  cases r with
  | listenerCreate info => exact hk.effect_listenerCreate hr.1 hm
  | listenerDelete info => exact hk.effect_listenerDelete hr.1 hm
  | listenerUpdate info => exact hk.effect_listenerUpdate hr.1 hr.2.1 hr.2.2 hm
  | poolCreate info => exact hk.effect_poolCreate hr.1 hm
  | poolDelete info => exact hk.effect_poolDelete hr.1 hr.2 hm
  | poolUpdate info => exact hk.effect_poolUpdate hr.1 hm
  | memberCreate info =>
      obtain ⟨poolId, p, d, hp, hpool, hd, hwf, hup⟩ := hr
      exact hk.effect_memberCreate hp hpool hd hwf hup hm
  | memberUpdate info =>
      obtain ⟨poolId, p, hp, hpool⟩ := hr
      exact hk.effect_memberUpdate hp hpool hm
  | memberDelete info =>
      obtain ⟨poolId, p, d, hp, hpool, hd, hwf⟩ := hr
      exact hk.effect_memberDelete hp hpool hd hwf hm
  | _ => exact hr.elim

end Effects

end Kept

end OvnOctavia
