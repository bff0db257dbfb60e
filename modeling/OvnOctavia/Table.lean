import OvnOctavia.History
import OvnOctavia.Outcomes

/-!
The rows of one load balancer: pairwise distinct protocols, no protocol only on
a row that stands alone, and every listener and pool key on the row of its
protocol. The requests on listeners and pools keep this in any order.
-/

namespace OvnOctavia

/-- What holds of the rows of one load balancer at every time. -/
structure Table (h : History) (nb : Nb) : Prop where
  wellFormed : nb.WellFormed
  rows_ne_nil : nb.lbsNamed h.lbId ≠ []
  protocols : ((nb.lbsNamed h.lbId).map LoadBalancer.protocol).Nodup
  sole : ∀ row ∈ nb.lbsNamed h.lbId, row.protocol = none → nb.lbsNamed h.lbId = [row]
  listener : ∀ row ∈ nb.lbsNamed h.lbId, ∀ id up, IsUuid id →
    getListenerKey id up ∈ row.externalIds.keys → ∃ p, h.HasListener id p ∧ row.protocol = some p
  pool : ∀ row ∈ nb.lbsNamed h.lbId, ∀ id up, IsUuid id →
    getPoolKey id up ∈ row.externalIds.keys → ∃ p, h.HasPool id p ∧ row.protocol = some p

namespace Table
variable {h h' : History} {nb nb' : Nb} {row row' : LoadBalancer}

/-- The objects a row may hold keys of. -/
structure Holds (h : History) (row : LoadBalancer) : Prop where
  listener : ∀ id up, IsUuid id → getListenerKey id up ∈ row.externalIds.keys →
    ∃ p, h.HasListener id p ∧ row.protocol = some p
  pool : ∀ id up, IsUuid id → getPoolKey id up ∈ row.externalIds.keys →
    ∃ p, h.HasPool id p ∧ row.protocol = some p

theorem holds (ht : Table h nb) (hrow : row ∈ nb.lbsNamed h.lbId) : Holds h row :=
  ⟨ht.listener row hrow, ht.pool row hrow⟩

theorem mono (ht : Table h nb) (he : h.Extends h') : Table h' nb := by
  refine ⟨ht.wellFormed, he.lbId ▸ ht.rows_ne_nil, he.lbId ▸ ht.protocols, he.lbId ▸ ht.sole,
    fun row hrow id up hid hk => ?_, fun row hrow id up hid hk => ?_⟩
  · obtain ⟨p, hl, hp⟩ := ht.listener row (he.lbId ▸ hrow) id up hid hk
    exact ⟨p, he.listener id p hl, hp⟩
  · obtain ⟨p, hl, hp⟩ := ht.pool row (he.lbId ▸ hrow) id up hid hk
    exact ⟨p, he.pool id p hl, hp⟩

section Peripheral

theorem notMem_peripheralKeys {k : Str} (hk : k ∉ baseKeys) : k ∉ peripheralKeys := by
  have hsub : ∀ k ∈ peripheralKeys, k ∈ baseKeys := by decide
  exact fun hm => hk (hsub k hm)

theorem mem_keys_of_sameKeys {e e' : Dict Str Str} (hs : SameKeys e e') {k : Str}
    (hk : k ∉ baseKeys) : k ∈ e'.keys ↔ k ∈ e.keys := by
  have hget := hs.get? k (notMem_peripheralKeys hk)
  rw [← Dict.contains_iff, ← Dict.contains_iff, Dict.contains, Dict.contains, hget]

theorem Holds.same (hh : Holds h row) (hs : row.SameObjects row') : Holds h row' := by
  refine ⟨fun id up hid hk => ?_, fun id up hid hk => ?_⟩
  · rw [mem_keys_of_sameKeys hs.externalIds (listenerKey_notMem_base id up)] at hk
    rw [hs.protocol]
    exact hh.listener id up hid hk
  · rw [mem_keys_of_sameKeys hs.externalIds (poolKey_notMem_base id up)] at hk
    rw [hs.protocol]
    exact hh.pool id up hid hk

private theorem map_protocol_of_same {rows rows' : List LoadBalancer}
    (hs : List.Forall₂ LoadBalancer.SameObjects rows rows') :
    rows'.map LoadBalancer.protocol = rows.map LoadBalancer.protocol := by
  induction hs with
  | nil => rfl
  | cons hlb _ ih => rw [List.map_cons, List.map_cons, hlb.protocol, ih]

theorem same (ht : Table h nb) (hs : nb.SameObjects nb') : Table h nb' := by
  have hrows := hs.lbsNamed h.lbId
  have hrow : ∀ row' ∈ nb'.lbsNamed h.lbId, Holds h row' := by
    intro row' hm
    obtain ⟨row, hrow, hsame⟩ := hs.exists_of_mem_named hm
    exact (ht.holds hrow).same hsame
  refine ⟨hs.wellFormed ht.wellFormed, fun hn => ?_, ?_, fun row' hm hp => ?_,
    fun row' hm => (hrow row' hm).listener, fun row' hm => (hrow row' hm).pool⟩
  · rw [hn, List.forall₂_nil_right_iff] at hrows
    exact ht.rows_ne_nil hrows
  · rw [map_protocol_of_same hrows]
    exact ht.protocols
  · obtain ⟨row, hrow, hsame⟩ := hs.exists_of_mem_named hm
    have hone := ht.sole row hrow (hsame.protocol ▸ hp)
    rw [hone] at hrows
    obtain ⟨a, l, ha, hl, he⟩ := List.forall₂_cons_left_iff.mp hrows
    rw [List.forall₂_nil_left_iff.mp hl] at he
    rw [he] at hm ⊢
    rw [List.mem_singleton.mp hm]

end Peripheral

section Rows

theorem get (ht : Table h nb) (hrow : row ∈ nb.lbsNamed h.lbId) : nb.lb? row.uuid = some row :=
  ht.wellFormed.lb?_of_mem (Nb.mem_lbsNamed.mp hrow).1

theorem lbsNamed_putLb (ht : Table h nb) (hrow : row ∈ nb.lbsNamed h.lbId)
    (hu : row'.uuid = row.uuid) (hn : row'.name = row.name) :
    (nb.putLb row').lbsNamed h.lbId =
      (nb.lbsNamed h.lbId).map fun lb => if lb.uuid = row.uuid then row' else lb := by
  rw [Nb.lbsNamed_putLb ht.wellFormed row' (hu ▸ ht.get hrow) hn h.lbId, hu]

theorem eq_of_uuid (ht : Table h nb) (hrow : row ∈ nb.lbsNamed h.lbId)
    (hrow' : row' ∈ nb.lbsNamed h.lbId) (hu : row'.uuid = row.uuid) : row' = row :=
  ht.wellFormed.eq_of_uuid (Nb.mem_lbsNamed.mp hrow').1 (Nb.mem_lbsNamed.mp hrow).1 hu

/-- A row is replaced by one of the same protocol, or, when it stands alone, by
any. -/
theorem putLb (ht : Table h nb) (hrow : row ∈ nb.lbsNamed h.lbId) (hu : row'.uuid = row.uuid)
    (hn : row'.name = row.name)
    (hp : row'.protocol = row.protocol ∨ nb.lbsNamed h.lbId = [row])
    (hh : Holds h row') : Table h (nb.putLb row') := by
  have hrows := ht.lbsNamed_putLb hrow hu hn
  have hone : nb.lbsNamed h.lbId = [row] → (nb.putLb row').lbsNamed h.lbId = [row'] := by
    intro hl
    rw [hrows, hl, List.map_singleton, if_pos rfl]
  have hmem : ∀ lb ∈ (nb.putLb row').lbsNamed h.lbId, lb = row' ∨ lb ∈ nb.lbsNamed h.lbId := by
    intro lb hm
    rw [hrows] at hm
    obtain ⟨a, ha, rfl⟩ := List.mem_map.mp hm
    split
    · exact .inl rfl
    · exact .inr ha
  have hholds : ∀ lb ∈ (nb.putLb row').lbsNamed h.lbId, Holds h lb := by
    intro lb hm
    rcases hmem lb hm with rfl | hm
    · exact hh
    · exact ht.holds hm
  refine ⟨ht.wellFormed.putLb row', ?_, ?_, ?_, fun lb hm => (hholds lb hm).listener,
    fun lb hm => (hholds lb hm).pool⟩
  · rw [hrows]
    exact fun hl => ht.rows_ne_nil (List.map_eq_nil_iff.mp hl)
  · rcases hp with hp | hl
    · have hmap : ((nb.putLb row').lbsNamed h.lbId).map LoadBalancer.protocol =
          (nb.lbsNamed h.lbId).map LoadBalancer.protocol := by
        rw [hrows, List.map_map]
        apply List.map_congr_left
        intro lb hlb
        simp only [Function.comp_apply]
        split
        · next e => rw [ht.eq_of_uuid hrow hlb e, hp]
        · rfl
      rw [hmap]
      exact ht.protocols
    · rw [hone hl]
      exact List.nodup_singleton _
  · intro lb hm hlb
    have hl : nb.lbsNamed h.lbId = [row] := by
      rcases hp with hp | hl
      · rcases hmem lb hm with rfl | hm
        · exact ht.sole row hrow (hp ▸ hlb)
        · have hl := ht.sole lb hm hlb
          rw [hl] at hrow ⊢
          rw [List.mem_singleton.mp hrow]
      · exact hl
    rw [hone hl] at hm ⊢
    rw [List.mem_singleton.mp hm]

theorem deleteLb (ht : Table h nb) (hrow : row ∈ nb.lbsNamed h.lbId)
    (hlen : 2 ≤ (nb.lbsNamed h.lbId).length) : Table h (nb.deleteLb row.uuid) := by
  have hrows : (nb.deleteLb row.uuid).lbsNamed h.lbId =
      (nb.lbsNamed h.lbId).filter (·.uuid ≠ row.uuid) := by
    rw [Nb.lbsNamed, Nb.lbsNamed, Nb.loadBalancers_deleteLb, List.filter_filter,
      List.filter_filter]
    apply List.filter_congr
    intro lb _
    exact Bool.and_comm _ _
  have hmem : ∀ lb ∈ (nb.deleteLb row.uuid).lbsNamed h.lbId, lb ∈ nb.lbsNamed h.lbId :=
    fun lb hm => List.mem_of_mem_filter (hrows ▸ hm)
  refine ⟨ht.wellFormed.deleteLb row.uuid, fun hn => ?_, ?_, fun lb hm hp => ?_,
    fun lb hm => (ht.holds (hmem lb hm)).listener, fun lb hm => (ht.holds (hmem lb hm)).pool⟩
  · -- all rows would be the deleted one
    have hall : ∀ lb ∈ nb.lbsNamed h.lbId, lb = row := by
      intro lb hlb
      rw [hrows, List.filter_eq_nil_iff] at hn
      exact ht.eq_of_uuid hrow hlb (by simpa using hn lb hlb)
    have hnd := ht.protocols
    rcases hl : nb.lbsNamed h.lbId with _ | ⟨a, _ | ⟨b, l⟩⟩
    · simp [hl] at hlen
    · simp [hl] at hlen
    · rw [hl] at hall hnd
      have ha := hall a (by simp)
      have hb := hall b (by simp)
      simp [ha, hb] at hnd
  · exact ht.protocols.sublist (hrows ▸ List.filter_sublist.map _)
  · have hl := ht.sole lb (hmem lb hm) hp
    rw [hl] at hlen
    simp at hlen

theorem cleaned (ht : Table h nb) (hrow : row ∈ nb.lbsNamed h.lbId) (isEmpty : Bool)
    (hu : row'.uuid = row.uuid) (hn : row'.name = row.name)
    (hp : row'.protocol = row.protocol) (hh : Holds h row')
    (he : isEmpty = true → Holds h { row' with protocol := none }) :
    Table h (nb.cleaned h.lbId isEmpty row') := by
  rw [Nb.cleaned]
  cases isEmpty with
  | false => exact ht.putLb hrow hu hn (.inl hp) hh
  | true =>
      rcases hl : nb.lbsNamed h.lbId with _ | ⟨a, _ | ⟨b, l⟩⟩
      · exact absurd hl ht.rows_ne_nil
      · have ha : a = row := by
          rw [hl] at hrow
          exact (List.mem_singleton.mp hrow).symm
        exact ht.putLb hrow hu hn (.inr (ha ▸ hl)) (he rfl)
      · rw [hu]
        exact ht.deleteLb hrow (by rw [hl]; simp)

end Rows

section Creating
variable {env : Env}

theorem holds_of_base (hk : ∀ k ∈ row.externalIds.keys, k ∈ baseKeys) : Holds h row :=
  ⟨fun id up _ hm => absurd (hk _ hm) (listenerKey_notMem_base id up),
    fun id up _ hm => absurd (hk _ hm) (poolKey_notMem_base id up)⟩

private theorem set_base {e : Dict Str Str} (he : ∀ k ∈ e.keys, k ∈ baseKeys) {j : Str}
    (hj : j ∈ baseKeys) (v : Str) : ∀ k ∈ (e.set j v).keys, k ∈ baseKeys := by
  intro k hk
  rcases (Dict.mem_keys_set e j k v).mp hk with rfl | hk
  · exact hj
  · exact he k hk

private theorem setNonempty_base {e : Dict Str Str} (he : ∀ k ∈ e.keys, k ∈ baseKeys) {j : Str}
    (hj : j ∈ baseKeys) (v : Option Str) : ∀ k ∈ (setNonempty j v e).keys, k ∈ baseKeys := by
  unfold setNonempty
  split
  · exact set_base he hj _
  · exact he

theorem addVipKeys_base (info : LoadBalancerInfo) {e : Dict Str Str}
    (he : ∀ k ∈ e.keys, k ∈ baseKeys) : ∀ k ∈ (addVipKeys info e).keys, k ∈ baseKeys := by
  have hadd : ∀ k ∈ (addAdditionalVips info.additionalVips e).keys, k ∈ baseKeys := by
    unfold addAdditionalVips
    split
    · exact he
    · exact set_base (set_base he (by decide) _) (by decide) _
  exact setNonempty_base (setNonempty_base (setNonempty_base hadd (by decide) _) (by decide) _)
    (by decide) _

theorem baseExternalIds_base (vip vipPortId : Str) (up : Bool) :
    ∀ k ∈ (baseExternalIds vip vipPortId up).keys, k ∈ baseKeys := by
  have hsingle : ∀ k ∈ (Dict.single lbExtIdsVipKey vip).keys, k ∈ baseKeys := by
    intro k hk
    rcases (Dict.mem_keys_set Dict.empty lbExtIdsVipKey k vip).mp hk with rfl | hk
    · decide
    · cases hk
  exact set_base (set_base hsingle (by decide) _) (by decide) _

/-- A row for a further protocol. -/
theorem createLb (ht : Table h nb) {p : Protocol} {externalIds : Dict Str Str}
    (hp : ∀ lb ∈ nb.lbsNamed h.lbId, lb.protocol ≠ none ∧ lb.protocol ≠ some p)
    (hk : ∀ k ∈ externalIds.keys, k ∈ baseKeys) (fields : List Str) :
    Table h (nb.createLb h.lbId (some p) externalIds fields) := by
  have hrows : ∃ row : LoadBalancer, row.protocol = some p ∧ row.externalIds = externalIds ∧
      (nb.createLb h.lbId (some p) externalIds fields).lbsNamed h.lbId =
        nb.lbsNamed h.lbId ++ [row] := by
    refine ⟨⟨nb.nextUuid, h.lbId, some p, ∅, externalIds, ∅, fields, [], ∅⟩, rfl, rfl, ?_⟩
    simp only [Nb.lbsNamed, Nb.createLb, List.filter_append]
    congr 1
    simp
  obtain ⟨row, hrp, hre, hrows⟩ := hrows
  have hholds : ∀ lb ∈ nb.lbsNamed h.lbId ++ [row], Holds h lb := by
    intro lb hm
    rcases List.mem_append.mp hm with hm | hm
    · exact ht.holds hm
    · rw [List.mem_singleton.mp hm]
      exact holds_of_base (hre ▸ hk)
  refine ⟨ht.wellFormed.createLb .., ?_, ?_, fun lb hm hnone => ?_,
    fun lb hm => (hholds lb (hrows ▸ hm)).listener, fun lb hm => (hholds lb (hrows ▸ hm)).pool⟩
  · rw [hrows]
    exact List.append_ne_nil_of_right_ne_nil _ (List.cons_ne_nil row [])
  · rw [hrows, List.map_append, List.map_singleton, List.nodup_append]
    refine ⟨ht.protocols, List.nodup_singleton _, fun q hq q' hq' => ?_⟩
    obtain ⟨lb, hlb, rfl⟩ := List.mem_map.mp hq
    rw [List.mem_singleton.mp hq', hrp]
    exact (hp lb hlb).2
  · rw [hrows] at hm
    rcases List.mem_append.mp hm with hm | hm
    · exact absurd hnone (hp lb hm).1
    · rw [List.mem_singleton.mp hm, hrp] at hnone
      cases hnone

theorem provided (ht : Table h nb) {p : Protocol} {up : Bool}
    (hpr : Provided env h.lbId p up nb nb') :
    Table h nb' := by
  cases hpr with
  | failed hp hs => exact ht.same hs
  | assigned hrow hnone hp =>
      have hone := ht.sole _ hrow hnone
      refine ht.putLb hrow rfl rfl (.inr hone) ⟨fun id up hid hk => ?_, fun id up hid hk => ?_⟩
      · obtain ⟨q, -, hq⟩ := ht.listener _ hrow id up hid hk
        rw [hnone] at hq
        cases hq
      · obtain ⟨q, -, hq⟩ := ht.pool _ hrow id up hid hk
        rw [hnone] at hq
        cases hq
  | created hfirst hp hvip hport hs =>
      exact (ht.createLb hp (addVipKeys_base _ (baseExternalIds_base _ _ _)) _).same hs

end Creating

section Keys

theorem notMem_of_isLbEmpty {e : Dict Str Str} (he : isLbEmpty e = true) (id : Str) (up : Bool) :
    getListenerKey id up ∉ e.keys ∧ getPoolKey id up ∉ e.keys := by
  rw [isLbEmpty, Bool.not_eq_true', List.any_eq_false] at he
  refine ⟨fun hk => he _ hk ?_, fun hk => he _ hk ?_⟩
  · rw [Bool.or_eq_true]
    exact .inl rfl
  · rw [Bool.or_eq_true]
    exact .inr rfl

theorem holds_of_isLbEmpty {e : Dict Str Str} (he : isLbEmpty e = true)
    (hk : ∀ k ∈ row.externalIds.keys, k ∈ e.keys) : Holds h row :=
  ⟨fun id up _ hm => absurd (hk _ hm) (notMem_of_isLbEmpty he id up).1,
    fun id up _ hm => absurd (hk _ hm) (notMem_of_isLbEmpty he id up).2⟩

/-- A row with no further keys. -/
theorem Holds.of_keys (hh : Holds h row) (hp : row'.protocol = row.protocol)
    (hk : ∀ k ∈ row'.externalIds.keys, k ∈ row.externalIds.keys) : Holds h row' :=
  ⟨fun id up hid hm => hp ▸ hh.listener id up hid (hk _ hm),
    fun id up hid hm => hp ▸ hh.pool id up hid (hk _ hm)⟩

/-- A row with the key of one more listener. -/
theorem Holds.of_listener (hh : Holds h row) (hp : row'.protocol = row.protocol) {id : Str}
    (hid : IsUuid id) (up : Bool) {p : Protocol} (hl : h.HasListener id p)
    (hrow : row.protocol = some p)
    (hk : ∀ k ∈ row'.externalIds.keys, k ∈ row.externalIds.keys ∨ k = getListenerKey id up) :
    Holds h row' := by
  refine ⟨fun id' up' hid' hm => ?_, fun id' up' hid' hm => ?_⟩
  · rcases hk _ hm with hm | he
    · exact hp ▸ hh.listener id' up' hid' hm
    · rw [(getListenerKey_inj hid' hid he).1]
      exact ⟨p, hl, hp.trans hrow⟩
  · rcases hk _ hm with hm | he
    · exact hp ▸ hh.pool id' up' hid' hm
    · exact absurd he.symm (listenerKey_ne_poolKey id id' up up')

/-- A row with the key of one more pool. -/
theorem Holds.of_pool (hh : Holds h row) (hp : row'.protocol = row.protocol) {id : Str}
    (hid : IsUuid id) (up : Bool) {p : Protocol} (hl : h.HasPool id p)
    (hrow : row.protocol = some p)
    (hk : ∀ k ∈ row'.externalIds.keys, k ∈ row.externalIds.keys ∨ k = getPoolKey id up) :
    Holds h row' := by
  refine ⟨fun id' up' hid' hm => ?_, fun id' up' hid' hm => ?_⟩
  · rcases hk _ hm with hm | he
    · exact hp ▸ hh.listener id' up' hid' hm
    · exact absurd he (listenerKey_ne_poolKey id' id up' up)
  · rcases hk _ hm with hm | he
    · exact hp ▸ hh.pool id' up' hid' hm
    · rw [(getPoolKey_inj hid' hid he).1]
      exact ⟨p, hl, hp.trans hrow⟩

theorem mem_keys_updatedListenerKeys {info : ListenerInfo} {key value k : Str} {e : Dict Str Str}
    (hk : k ∈ (updatedListenerKeys info key value e).keys) :
    k ∈ e.keys ∨ k = (info.adminStateUp.map (getListenerKey info.id)).getD key := by
  unfold updatedListenerKeys at hk
  generalize (info.adminStateUp.map (getListenerKey info.id)).getD key = newKey at hk ⊢
  dsimp only at hk
  have hmoved : k ∈ (if key ≠ newKey then (e.set newKey value).erase key else e).keys →
      k ∈ e.keys ∨ k = newKey := by
    intro hm
    split at hm
    · rw [Dict.mem_keys_erase, Dict.mem_keys_set] at hm
      exact hm.1.symm
    · exact .inl hm
  split at hk
  · rw [Dict.mem_keys_set] at hk
    rcases hk with hk | hk
    · exact .inr hk
    · exact hmoved hk
  · exact hmoved hk

theorem presentListenerKey_eq {e : Dict Str Str} {id key : Str}
    (h : presentListenerKey e id = some key) : ∃ up, key = getListenerKey id up ∧ key ∈ e.keys := by
  unfold presentListenerKey at h
  split at h
  · next hc =>
      cases h
      exact ⟨true, rfl, (Dict.contains_iff _ _).mp hc⟩
  · split at h
    · next hc =>
        cases h
        exact ⟨false, rfl, (Dict.contains_iff _ _).mp hc⟩
    · cases h

theorem mem_keys_poolCreateExternalIds {info : PoolInfo} {up : Bool} {e : Dict Str Str} {k : Str}
    (hk : k ∈ (poolCreateExternalIds info up e).keys) :
    k ∈ e.keys ∨ k = getPoolKey info.id up := by
  have hset : k ∈ (e.set (getPoolKey info.id up) []).keys → k ∈ e.keys ∨
    k = getPoolKey info.id up :=
    fun hm => ((Dict.mem_keys_set _ _ _ _).mp hm).symm
  unfold poolCreateExternalIds at hk
  dsimp only at hk
  split at hk
  · split at hk
    · exact hset hk
    · next value hv =>
        split at hk
        · exact hset hk
        · rcases (Dict.mem_keys_set _ _ _ _).mp hk with rfl | hk
          · left
            rw [← Dict.contains_iff, Dict.contains, hv]
            rfl
          · exact hset hk
  · exact hset hk

theorem mem_keys_poolDeletedKeys {id : Str} {e : Dict Str Str} {k : Str}
    (hk : k ∈ (poolDeletedKeys id e).keys) :
    k ∈ (detachPool (getPoolKey id true) e (e.erase (getPoolKey id true))).keys ∧ k ∈ e.keys := by
  rw [poolDeletedKeys, Dict.mem_keys_erase] at hk
  refine ⟨hk.1, ?_⟩
  have := hk.1
  rw [keys_detachPool, Dict.mem_keys_erase] at this
  exact this.1

theorem mem_keys_movedPoolKeys {fromKey toKey k : Str} {e : Dict Str Str}
    (hk : k ∈ (movedPoolKeys fromKey toKey e).keys) :
    k ∈ e.keys ∨ k = toKey ∧ fromKey ∈ e.keys := by
  unfold movedPoolKeys at hk
  split at hk
  · exact .inl hk
  · next value hv =>
      rw [Dict.mem_keys_erase, Dict.mem_keys_set] at hk
      rcases hk.1 with hk | hk
      · refine .inr ⟨hk, ?_⟩
        rw [← Dict.contains_iff, Dict.contains, hv]
        rfl
      · exact .inl hk

end Keys

section Requests
variable {env : Env}

/-- A request of the load balancer on listeners or pools, with well-formed ids. -/
def IsObjectRequest (h : History) : Request → Prop
  | .listenerCreate info | .listenerUpdate info | .listenerDelete info =>
      info.loadbalancerId = h.lbId ∧ IsUuid info.id
  | .poolCreate info | .poolDelete info | .poolUpdate info =>
      info.loadbalancerId = h.lbId ∧ IsUuid info.id
  | _ => False

theorem of_provided (ht : Table h nb) {p : Protocol} {state : Option Bool}
    (hpr : nb' = nb ∨ ∃ up, state = some up ∧ Provided env h.lbId p up nb nb') :
    Table h nb' := by
  rcases hpr with rfl | ⟨up, -, hpr⟩
  · exact ht
  · exact ht.provided hpr

theorem listenerCreate (ht : Table h nb) {info : ListenerInfo} (hlb : info.loadbalancerId = h.lbId)
    (hid : IsUuid info.id) :
    Table (h.next (.listenerCreate info)) (handled env (.listenerCreate info) nb) := by
  have hext := h.extends_next (.listenerCreate info)
  obtain ⟨nb₁, hpr, hout⟩ := handled_listenerCreate env ht.wellFormed info
  rw [hlb] at hpr hout
  have ht₁ := (ht.of_provided hpr).mono hext
  rcases hout with hout | ⟨up, row, vips, hup, hrow, hp, hf, hs⟩
  · exact hout ▸ ht₁
  · have hcreated : (createdListener info up row vips).protocol = row.protocol := by
      rw [createdListener]
      split
      · rfl
      · exact hp.symm
    have hnew : (h.next (.listenerCreate info)).HasListener info.id info.protocol :=
      ⟨_, List.mem_append_right _ (List.mem_singleton_self _), rfl, rfl⟩
    have hput : Table (h.next (.listenerCreate info))
        (nb₁.putLb (createdListener info up row vips)) := by
      refine ht₁.putLb hrow rfl rfl (.inl hcreated) ?_
      exact (ht₁.holds hrow).of_listener hcreated hid up hnew hp fun k hk =>
        ((Dict.mem_keys_set _ _ _ _).mp hk).symm
    exact hput.same hs

theorem listenerDelete (ht : Table h nb) {info : ListenerInfo}
    (hlb : info.loadbalancerId = h.lbId) :
    Table h (handled env (.listenerDelete info) nb) := by
  rcases handled_listenerDelete env ht.wellFormed info with ⟨e, -, hout⟩ | ⟨row, hsel, hout⟩
  · exact hout.symm ▸ ht
  · rw [hlb] at hsel hout
    have hrow := (selectOvnLb_ok hsel).1
    have hkeys : ∀ k ∈ (row.externalIds.erase (getListenerKey info.id true)).keys,
        k ∈ row.externalIds.keys := fun k hk => ((Dict.mem_keys_erase _ _ _).mp hk).1
    rcases hout with ⟨hout, -⟩ | ⟨hd, hout⟩ | ⟨vips, -, hout⟩
    · exact hout.symm ▸ ht
    · rw [Nb.cleaningDeletes, Bool.and_eq_true, decide_eq_true_iff] at hd
      exact hout.symm ▸ ht.deleteLb hrow hd.2
    · rw [hout]
      exact ht.cleaned hrow _ rfl rfl rfl ((ht.holds hrow).of_keys rfl hkeys)
        fun he => holds_of_isLbEmpty he fun k hk => hk

theorem listenerUpdate (ht : Table h nb) {info : ListenerInfo}
    (hlb : info.loadbalancerId = h.lbId) (hid : IsUuid info.id) :
    Table h (handled env (.listenerUpdate info) nb) := by
  rcases handled_listenerUpdate env ht.wellFormed info with ⟨e, -, hout⟩ | ⟨row, hsel, hout⟩
  · exact hout.symm ▸ ht
  · rw [hlb] at hsel
    have hrow := (selectOvnLb_ok hsel).1
    rcases hout with ⟨hout, -⟩ | ⟨key, value, hkey, hv, hout⟩
    · exact hout.symm ▸ ht
    · rcases hout with ⟨-, hout⟩ | ⟨vips, -, hout⟩
      · exact hout.symm ▸ ht
      · obtain ⟨up, rfl, hmem⟩ := presentListenerKey_eq hkey
        obtain ⟨p, hl, hp⟩ := ht.listener row hrow info.id up hid hmem
        rw [hout]
        refine ht.putLb hrow rfl rfl (.inl rfl) ?_
        refine (ht.holds hrow).of_listener rfl hid (info.adminStateUp.getD up) hl hp
          fun k hk => ?_
        rcases mem_keys_updatedListenerKeys hk with hk | hk
        · exact .inl hk
        · right
          rw [hk]
          cases info.adminStateUp <;> rfl

theorem poolCreate (ht : Table h nb) {info : PoolInfo} (hlb : info.loadbalancerId = h.lbId)
    (hid : IsUuid info.id) :
    Table (h.next (.poolCreate info)) (handled env (.poolCreate info) nb) := by
  have hext := h.extends_next (.poolCreate info)
  obtain ⟨nb₁, hpr, hout⟩ := handled_poolCreate env ht.wellFormed info
  rw [hlb] at hpr hout
  have ht₁ := (ht.of_provided hpr).mono hext
  rcases hout with ⟨hout, -⟩ | ⟨up, row, options, hup, hrow, hp, hout⟩
  · exact hout.symm ▸ ht₁
  · have hnew : (h.next (.poolCreate info)).HasPool info.id info.protocol := by
      simp only [History.next]
      split
      · exact ⟨_, List.mem_append_right _ (List.mem_singleton_self _), rfl, rfl⟩
      · exact ⟨_, List.mem_append_right _ (List.mem_singleton_self _), rfl, rfl⟩
    have hrow' : row ∈ nb₁.lbsNamed (h.next (.poolCreate info)).lbId := by
      rw [History.lbId_next]
      exact hrow
    rw [hout]
    refine ht₁.putLb hrow' rfl rfl (.inl rfl) ?_
    exact (ht₁.holds hrow').of_pool rfl hid up hnew hp fun k hk =>
      mem_keys_poolCreateExternalIds hk

theorem poolDelete (ht : Table h nb) {info : PoolInfo} (hlb : info.loadbalancerId = h.lbId) :
    Table h (handled env (.poolDelete info) nb) := by
  rcases handled_poolDelete env ht.wellFormed info with ⟨e, -, hout⟩ | ⟨row, hsel, hout⟩
  · exact hout.symm ▸ ht
  · rw [hlb] at hsel hout
    have hrow := (selectOvnLb_ok hsel).1
    rcases hout with ⟨-, hout⟩ | ⟨vips, options, -, hout⟩
    · exact hout.symm ▸ ht
    · rw [hout]
      exact ht.cleaned hrow _ rfl rfl rfl
        ((ht.holds hrow).of_keys rfl fun k hk => (mem_keys_poolDeletedKeys hk).2)
        fun he => holds_of_isLbEmpty he fun k hk => (mem_keys_poolDeletedKeys hk).1

theorem poolUpdate (ht : Table h nb) {info : PoolInfo} (hlb : info.loadbalancerId = h.lbId)
    (hid : IsUuid info.id) : Table h (handled env (.poolUpdate info) nb) := by
  cases hup : info.adminStateUp with
  | none =>
      rw [handled_eq, handle, run_map_some]
      exact ht.same (sameObjects_run (peripheral_poolUpdate env hup) nb)
  | some up =>
      rcases handled_poolUpdate env ht.wellFormed info hup with ⟨e, -, hout⟩ | ⟨row, hsel, hout⟩
      · exact hout.symm ▸ ht
      · rw [hlb] at hsel
        have hrow := (selectOvnLb_ok hsel).1
        rcases hout with ⟨-, hout⟩ | ⟨vips, options, -, hout⟩
        · exact hout.symm ▸ ht
        · rw [hout]
          refine ht.putLb hrow rfl rfl (.inl rfl) ?_
          by_cases hfrom : getPoolKey info.id (!up) ∈ row.externalIds.keys
          · obtain ⟨p, hl, hp⟩ := ht.pool row hrow info.id (!up) hid hfrom
            refine (ht.holds hrow).of_pool rfl hid up hl hp fun k hk => ?_
            exact (mem_keys_movedPoolKeys hk).imp_right And.left
          · refine (ht.holds hrow).of_keys rfl fun k hk => ?_
            rcases mem_keys_movedPoolKeys hk with hk | hk
            · exact hk
            · exact absurd hk.2 hfrom

/-- The requests on listeners and pools keep the rows in order. -/
theorem step (ht : Table h nb) {r : Request} (hr : IsObjectRequest h r) :
    Table (h.next r) (handled env r nb) := by
  have hext := h.extends_next r
  cases r with
  | listenerCreate info => exact ht.listenerCreate hr.1 hr.2
  | listenerUpdate info => exact (ht.listenerUpdate hr.1 hr.2).mono hext
  | listenerDelete info => exact ht.listenerDelete hr.1
  | poolCreate info => exact ht.poolCreate hr.1 hr.2
  | poolDelete info => exact (ht.poolDelete hr.1).mono hext
  | poolUpdate info => exact ht.poolUpdate hr.1 hr.2
  | _ => exact hr.elim

end Requests

end Table

end OvnOctavia
