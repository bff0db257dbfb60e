import OvnOctavia.Effects

/-!
What the requests on listeners, pools and members keep: the rows are told apart by
their protocols, the keys of every row of the load balancer are readable, and no
other load balancer has the key of a pool of this one. Under this invariant no
traffic map is ever missing, and every request has its effect.
-/

namespace OvnOctavia

section Vips
variable {env : Env}

theorem get?_setNonempty (k : Str) (v : Option Str) (e : Dict Str Str) (j : Str) :
    (setNonempty k v e).get? j = if j = k ∧ v.getD [] ≠ [] then v else e.get? j := by
  rcases v with _ | _ | ⟨c, v⟩
  · simp [setNonempty]
  · simp [setNonempty]
  · simp [setNonempty, Dict.get?_set]

theorem get?_addAdditionalVips (vips : List AdditionalVip) (e : Dict Str Str) {j : Str}
    (hj : j ≠ lbExtIdsAdditVipKey) (hj' : j ≠ lbExtIdsAdditVipPortIdKey) :
    (addAdditionalVips vips e).get? j = e.get? j := by
  unfold addAdditionalVips
  split
  · rfl
  · rw [Dict.get?_set_of_ne _ _ hj', Dict.get?_set_of_ne _ _ hj]

/-- The addresses of a load balancer can be read. -/
structure LoadBalancerInfo.Addressed (env : Env) (info : LoadBalancerInfo) : Prop where
  vip : ∀ a, info.vipAddress = some a → (env.ipVersion a).isSome
  additional : ∀ v ∈ info.additionalVips, (env.ipVersion v.ipAddress).isSome ∧ ',' ∉ v.ipAddress
  fip : ∀ a, info.vipFip = some a → a ≠ [] → (env.ipVersion a).isSome
  fips : ∀ t, info.additionalVipFip = some t → t ≠ [] → ∀ a ∈ t.splitOn ',',
    (env.ipVersion a).isSome

variable {info : LoadBalancerInfo} {vip vipPortId : Str} {up : Bool}

theorem get?_addVipKeys (e : Dict Str Str) {j : Str}
    (hj : j ∉ [lbExtIdsLrRefKey, lbExtIdsAdditVipFipKey, lbExtIdsVipFipKey]) :
    (addVipKeys info e).get? j = (addAdditionalVips info.additionalVips e).get? j := by
  simp only [List.mem_cons, List.not_mem_nil, or_false, not_or] at hj
  rw [addVipKeys, get?_setNonempty, if_neg (fun h => hj.1 h.1), get?_setNonempty,
    if_neg (fun h => hj.2.1 h.1), get?_setNonempty, if_neg (fun h => hj.2.2 h.1)]

theorem get?_addVipKeys_vip : (addVipKeys info (baseExternalIds vip vipPortId up)).get?
    lbExtIdsVipKey = some vip := by
  rw [get?_addVipKeys _ (by decide), get?_addAdditionalVips _ _ (by decide) (by decide)]
  rfl

theorem get?_addVipKeys_enabled : (addVipKeys info (baseExternalIds vip vipPortId up)).get?
    enabledKey = some (strBool up) := by
  rw [get?_addVipKeys _ (by decide), get?_addAdditionalVips _ _ (by decide) (by decide)]
  rfl

theorem get?_addVipKeys_port : (addVipKeys info (baseExternalIds vip vipPortId up)).get?
    lbExtIdsVipPortIdKey = some vipPortId := by
  rw [get?_addVipKeys _ (by decide), get?_addAdditionalVips _ _ (by decide) (by decide)]
  rfl

theorem get?_addVipKeys_status : (addVipKeys info (baseExternalIds vip vipPortId up)).get?
    ovnMemberStatusKey = none := by
  rw [get?_addVipKeys _ (by decide), get?_addAdditionalVips _ _ (by decide) (by decide)]
  rfl

theorem get?_addVipKeys_additional : (addVipKeys info (baseExternalIds vip vipPortId up)).get?
    lbExtIdsAdditVipKey = if info.additionalVips = [] then none
      else some (Str.join ',' (info.additionalVips.map AdditionalVip.ipAddress)) := by
  rw [get?_addVipKeys _ (by decide), addAdditionalVips]
  split
  · rfl
  · rw [Dict.get?_set_of_ne _ _ (by decide), Dict.get?_set_self]

theorem get?_addVipKeys_additionalPorts :
    (addVipKeys info (baseExternalIds vip vipPortId up)).get? lbExtIdsAdditVipPortIdKey =
      if info.additionalVips = [] then none
        else some (Str.join ',' (info.additionalVips.map AdditionalVip.portId)) := by
  rw [get?_addVipKeys _ (by decide), addAdditionalVips]
  split
  · rfl
  · rw [Dict.get?_set_self]

theorem get?_addVipKeys_fip : (addVipKeys info (baseExternalIds vip vipPortId up)).get?
    lbExtIdsVipFipKey = if info.vipFip.getD [] ≠ [] then info.vipFip else none := by
  have hbase : (addAdditionalVips info.additionalVips (baseExternalIds vip vipPortId up)).get?
      lbExtIdsVipFipKey = none := by
    rw [get?_addAdditionalVips _ _ (by decide) (by decide)]
    rfl
  rw [addVipKeys, get?_setNonempty, if_neg (fun h => absurd h.1 (by decide)), get?_setNonempty,
    if_neg (fun h => absurd h.1 (by decide)), get?_setNonempty, hbase]
  simp only [true_and]

theorem get?_addVipKeys_fips : (addVipKeys info (baseExternalIds vip vipPortId up)).get?
    lbExtIdsAdditVipFipKey =
      if info.additionalVipFip.getD [] ≠ [] then info.additionalVipFip else none := by
  have hbase : (setNonempty lbExtIdsVipFipKey info.vipFip (addAdditionalVips info.additionalVips
      (baseExternalIds vip vipPortId up))).get? lbExtIdsAdditVipFipKey = none := by
    rw [get?_setNonempty, if_neg (fun h => absurd h.1 (by decide)),
      get?_addAdditionalVips _ _ (by decide) (by decide)]
    rfl
  rw [addVipKeys, get?_setNonempty, if_neg (fun h => absurd h.1 (by decide)), get?_setNonempty,
    hbase]
  simp only [true_and]

/-- The first keys of a row are readable when the addresses are. -/
theorem Readable.addVipKeys (ha : info.Addressed env) (hvip : info.vipAddress = some vip) :
    Readable env (addVipKeys info (baseExternalIds vip vipPortId up)) := by
  refine .of_base (Table.addVipKeys_base _ (Table.baseExternalIds_base _ _ _)) ?_ ?_ ?_
  · rw [← Dict.get?_eq_none_iff]
    exact get?_addVipKeys_status
  · intro a hm
    rw [lbVips, get?_addVipKeys_vip, get?_addVipKeys_additional] at hm
    rcases List.mem_append.mp hm with hm | hm
    · rw [Option.mem_toList] at hm
      cases hm
      exact ha.vip _ hvip
    · by_cases hn : info.additionalVips = []
      · rw [if_pos hn] at hm
        cases hm
      · rw [if_neg hn] at hm
        simp only at hm
        rw [Str.splitOn_join (fun s hs => ?_) (fun h => hn (List.map_eq_nil_iff.mp h)),
          List.mem_map] at hm
        · obtain ⟨v, hv, rfl⟩ := hm
          exact (ha.additional v hv).1
        · obtain ⟨v, hv, rfl⟩ := List.mem_map.mp hs
          exact (ha.additional v hv).2
  · intro a hm
    rw [lbFips, get?_addVipKeys_fip, get?_addVipKeys_fips] at hm
    rcases List.mem_append.mp hm with hm | hm
    · rcases hf : info.vipFip with _ | _ | ⟨c, f⟩
      · simp [hf] at hm
      · simp [hf] at hm
      · simp only [hf, Option.getD_some, ne_eq, reduceCtorEq, not_false_iff, if_true,
          List.mem_singleton] at hm
        rw [hm]
        exact ha.fip _ hf (by simp)
    · rcases hf : info.additionalVipFip with _ | _ | ⟨c, f⟩
      · simp [hf] at hm
      · simp [hf] at hm
      · simp only [hf, Option.getD_some, ne_eq, reduceCtorEq, not_false_iff, if_true] at hm
        exact ha.fips _ hf (by simp) a hm

/-- The additional addresses Octavia tells are addresses. -/
def Env.TellsAddresses (env : Env) : Prop := ∀ id lb, env.getLoadbalancer id = some lb →
  ∀ v ∈ lb.additionalVips, (env.ipVersion v.ipAddress).isSome ∧ ',' ∉ v.ipAddress

theorem addressed_copyLbInfo (ht : env.TellsAddresses) {lbId : Str} {first : LoadBalancer}
    (hr : Readable env first.externalIds) (alg : Option LbAlgorithm) :
    (copyLbInfo env lbId first up alg).Addressed env := by
  refine ⟨fun a h => hr.vips a ?_, fun v hv => ?_, fun a h hn => hr.fips a ?_,
    fun t h hn a hm => hr.fips a ?_⟩
  · have h' : first.externalIds.get? lbExtIdsVipKey = some a := h
    rw [lbVips, h']
    exact List.mem_append_left _ (by simp)
  · simp only [copyLbInfo] at hv
    cases hl : env.getLoadbalancer lbId with
    | none => rw [hl] at hv; cases hv
    | some lb => rw [hl] at hv; exact ht lbId lb hl v hv
  · have h' : first.externalIds.get? lbExtIdsVipFipKey = some a := h
    obtain ⟨c, a, rfl⟩ := List.exists_cons_of_ne_nil hn
    rw [lbFips, h']
    exact List.mem_append_left _ (List.mem_singleton_self _)
  · have h' : first.externalIds.get? lbExtIdsAdditVipFipKey = some t := h
    obtain ⟨c, t, rfl⟩ := List.exists_cons_of_ne_nil hn
    rw [lbFips, h']
    exact List.mem_append_right _ hm

end Vips

/-- What every run on a load balancer keeps. -/
structure Kept (env : Env) (h : History) (nb : Nb) : Prop where
  table : Table h nb
  distinct : h.Distinct
  readable : ∀ row ∈ nb.lbsNamed h.lbId, Readable env row.externalIds
  foreign : ∀ row ∈ nb.loadBalancers, row.name ≠ h.lbId → ∀ id up, IsUuid id →
    getPoolKey id up ∈ row.externalIds.keys → id ∈ h.taken ∧ ∀ p, ¬h.HasPool id p

namespace Kept
variable {env : Env} {h : History} {nb nb' nb₁ : Nb} {row row' : LoadBalancer} {r : Request}

theorem isUuid_of_pool (hk : Kept env h nb) {id : Str} {p : Protocol} (hp : h.HasPool id p) :
    IsUuid id := by
  obtain ⟨x, hx, rfl, -⟩ := hp
  exact hk.distinct.pool_uuid x hx

theorem protocol_of_pool (hk : Kept env h nb) (hrow : row ∈ nb.lbsNamed h.lbId) {id : Str}
    {p : Protocol} (hp : h.HasPool id p) {up : Bool}
    (hkey : getPoolKey id up ∈ row.externalIds.keys) : row.protocol = some p := by
  obtain ⟨q, hq, hr⟩ := hk.table.pool row hrow id up (hk.isUuid_of_pool hp) hkey
  rw [hr, hk.distinct.protocol_of_pool hq hp]

theorem eq_of_protocol (hk : Kept env h nb) (hrow : row ∈ nb.lbsNamed h.lbId)
    (hrow' : row' ∈ nb.lbsNamed h.lbId) (hp : row.protocol = row'.protocol) : row = row' :=
  List.inj_on_of_nodup_map hk.table.protocols hrow hrow' hp

/-- The keys of a pool are on one row only, and there is one. -/
theorem pool_unique (hk : Kept env h nb) (hrow : row ∈ nb.lbsNamed h.lbId)
    (hrow' : row' ∈ nb.lbsNamed h.lbId) {id : Str} {p : Protocol} (hp : h.HasPool id p)
    {up up' : Bool} (hkey : getPoolKey id up ∈ row.externalIds.keys)
    (hkey' : getPoolKey id up' ∈ row'.externalIds.keys) : row = row' ∧ up = up' := by
  have he := hk.eq_of_protocol hrow hrow'
    ((hk.protocol_of_pool hrow hp hkey).trans (hk.protocol_of_pool hrow' hp hkey').symm)
  subst he
  have hsole := (hk.readable row hrow).sole id (hk.isUuid_of_pool hp)
  refine ⟨rfl, ?_⟩
  cases up <;> cases up'
  · rfl
  · exact absurd hkey (hsole hkey')
  · exact absurd hkey' (hsole hkey)
  · rfl

/-- A pool of the load balancer is found on the row that has it, or has no row. -/
theorem poolRow (hk : Kept env h nb) {id : Str} {p : Protocol} (hp : h.HasPool id p) :
    (∃ up row value, nb.poolRow id = (getPoolKey id up, some row) ∧ row ∈ nb.lbsNamed h.lbId ∧
        row.externalIds.get? (getPoolKey id up) = some value) ∨
      (∃ key, nb.poolRow id = (key, none)) ∧
        ∀ row ∈ nb.lbsNamed h.lbId, ∀ up, getPoolKey id up ∉ row.externalIds.keys := by
  rcases hf : nb.poolRow id with ⟨key, _ | row⟩
  · refine .inr ⟨⟨key, rfl⟩, fun row hrow up => ?_⟩
    exact Nb.poolRow_eq_none hf (Nb.mem_lbsNamed.mp hrow).1 (hk.readable row hrow).get?_deviceOwner
      up
  · obtain ⟨hm, hkey, up, rfl⟩ := Nb.poolRow_eq_some hf
    obtain ⟨value, hv⟩ := get?_of_mem_keys hkey
    refine .inl ⟨up, row, value, rfl, Nb.mem_lbsNamed.mpr ⟨hm, ?_⟩, hv⟩
    by_contra hn
    exact (hk.foreign row hm hn id up (hk.isUuid_of_pool hp) hkey).2 p hp

section Sources

/-- The rows of a store provided for a request come from rows that were there. -/
theorem source_of_provided (hk : Kept env h nb) {p : Protocol}
    (hpr : nb₁ = nb ∨ ∃ up, r.createdUp = some up ∧ Provided env h.lbId p up nb nb₁)
    (hrow : row ∈ nb₁.lbsNamed h.lbId) : Source env nb h r row := by
  rcases hpr with rfl | ⟨up, hup, hpr⟩
  · exact .present hrow (.refl row)
  · cases hpr with
    | failed hp hs =>
        obtain ⟨old, hold, hsame⟩ := hs.exists_of_mem_named hrow
        exact .present hold hsame.content
    | @assigned old hold hnone hp =>
        rcases Nb.named_putLb (hk.table.get hold) hrow rfl with rfl | ⟨hm, -⟩
        · exact .present hold ⟨rfl, .refl _, id⟩
        · exact .present hm (.refl row)
    | created hfirst hp hvip hport hs =>
        obtain ⟨new, hnew, hsame⟩ := hs.exists_of_mem_named hrow
        obtain ⟨hm, hn⟩ := Nb.mem_lbsNamed.mp hnew
        rcases List.mem_append.mp hm with hm | hm
        · exact .present (Nb.mem_lbsNamed.mpr ⟨hm, hn⟩) hsame.content
        · rw [List.mem_singleton.mp hm] at hsame
          exact .provided hfirst hup hvip rfl rfl rfl hsame.content

theorem readable_of_source (hk : Kept env h nb) (ht : env.TellsAddresses)
    (hs : Source env nb h r row) : Readable env row.externalIds := by
  cases hs with
  | present hold hs => exact (hk.readable _ hold).of_sameKeys hs.externalIds
  | provided hfirst hup hvip he hv hc hs =>
      refine Readable.of_sameKeys ?_ hs.externalIds
      rw [he]
      exact .addVipKeys (addressed_copyLbInfo ht (hk.readable _ hfirst) _) hvip

end Sources

end Kept

end OvnOctavia
