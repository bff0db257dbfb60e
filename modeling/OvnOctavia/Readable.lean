import OvnOctavia.PoolValues
import OvnOctavia.Rows
import OvnOctavia.Table

/-!
Keys of a row that can be read: the fixed keys, listener keys whose values name
at most a pool, pool keys whose values list well-formed members, and a status map
of its writer's layout. Such keys have a traffic map, and it is enough to compare
what the enabled listeners serve.
-/

namespace OvnOctavia

/-- The member statuses of a row; no map where it cannot be read. -/
def statusesIn (e : Dict Str Str) : Dict Str Str :=
  match loadMemberStatuses e with
  | .ok d => d
  | .error _ => ∅

def offlineIn (e : Dict Str Str) : Str → Bool := isOffline (statusesIn e)

def IsListenerValue (v : Str) : Prop :=
  ∃ port t, v = makeListenerKeyValue port t ∧ (t = [] ∨ lbExtIdsPoolPrefix <+: t)

def IsPoolValue (env : Env) (v : Str) : Prop :=
  ∃ ds, v = poolValue ds ∧ ∀ d ∈ ds, d.WellFormed env

structure Readable (env : Env) (e : Dict Str Str) : Prop where
  key : ∀ k ∈ e.keys, k ∈ baseKeys ∨ (∃ id up, IsUuid id ∧ k = getListenerKey id up) ∨
    ∃ id up, IsUuid id ∧ k = getPoolKey id up
  statuses : loadMemberStatuses e = .ok (statusesIn e)
  listener : ∀ id up v, IsUuid id → e.get? (getListenerKey id up) = some v → IsListenerValue v
  pool : ∀ id up v, IsUuid id → e.get? (getPoolKey id up) = some v → IsPoolValue env v
  sole : ∀ id, IsUuid id → getPoolKey id true ∈ e.keys → getPoolKey id false ∉ e.keys
  vips : ∀ a ∈ lbVips e, (env.ipVersion a).isSome
  fips : ∀ a ∈ lbFips e, (env.ipVersion a).isSome

section Reading
variable {e e' : Dict Str Str}

theorem loadMemberStatuses_congr (h : e'.get? ovnMemberStatusKey = e.get? ovnMemberStatusKey) :
    loadMemberStatuses e' = loadMemberStatuses e := by
  rw [loadMemberStatuses, loadMemberStatuses, h]

theorem statusesIn_congr (h : e'.get? ovnMemberStatusKey = e.get? ovnMemberStatusKey) :
    statusesIn e' = statusesIn e := by
  rw [statusesIn, statusesIn, loadMemberStatuses_congr h]

theorem mem_keys_of_get? {k v : Str} (h : e.get? k = some v) : k ∈ e.keys :=
  Dict.mem_keys_of_get? h

theorem get?_of_mem_keys {k : Str} (h : k ∈ e.keys) : ∃ v, e.get? k = some v := by
  rwa [← Dict.contains_iff, Dict.contains, Option.isSome_iff_exists] at h

/-- The pool value a listener that names `t` serves. -/
def target (e : Dict Str Str) (t : Str) : Str :=
  if t = [] ∨ ':' ∈ t then [] else (e.get? t).getD []

/-- The service of a listener value is that of the pool it names. -/
theorem serviceOf_make (e : Dict Str Str) (n : Nat) (t : Str) :
    (serviceOf e (makeListenerKeyValue n t)).2 = target e t ∧
      (target e t = [] ∨ serviceOf e (makeListenerKeyValue n t) = (Str.ofNat n, target e t)) := by
  unfold serviceOf target
  by_cases hc : ':' ∈ t
  · rw [extractListenerKeyValue_of_colon hc, if_pos (.inr hc)]
    exact ⟨rfl, .inl rfl⟩
  · rw [extractListenerKeyValue_make hc]
    by_cases ht : t = []
    · rw [if_pos (.inl ht)]
      simp [ht]
    · have hor : ¬(t = [] ∨ ':' ∈ t) := fun h => h.elim ht hc
      have hor' : ¬(Str.ofNat n = [] ∨ t = []) := fun h => h.elim (Str.ofNat_ne_nil n) ht
      simp only [if_neg hor, if_neg hor']
      exact ⟨trivial, .inr trivial⟩

theorem isServing_listenerKey {id : Str} (hid : IsUuid id) (up : Bool) :
    isServing (getListenerKey id up) = up := by
  rw [isServing, hasListenerPrefix_listenerKey, isListenerDisabled_listenerKey hid]
  simp

theorem colon_notMem_poolKey {id : Str} (hid : IsUuid id) : ':' ∉ getPoolKey id true := by
  have hu : ':' ∉ id := hid.notMem (by decide)
  have hp : ':' ∉ lbExtIdsPoolPrefix := by decide
  simp [getPoolKey, hu, hp]

theorem poolPrefix_poolKey (id : Str) (up : Bool) : lbExtIdsPoolPrefix <+: getPoolKey id up :=
  Str.startsWith_iff.mp (startsWith_poolKey id up)

theorem target_poolKey {id : Str} (hid : IsUuid id) (e : Dict Str Str) :
    target e (getPoolKey id true) = (e.get? (getPoolKey id true)).getD [] := by
  have hne : getPoolKey id true ≠ [] := by simp [getPoolKey, lbExtIdsPoolPrefix]
  rw [target, if_neg]
  exact fun h => h.elim hne (colon_notMem_poolKey hid)

end Reading

namespace Readable
variable {env : Env} {e e' : Dict Str Str}

theorem get?_deviceOwner (hr : Readable env e) : e.get? ovnDeviceOwnerExtIdKey = none := by
  rw [Dict.get?_eq_none_iff]
  intro hk
  rcases hr.key _ hk with hb | ⟨id, up, -, he⟩ | ⟨id, up, -, he⟩
  · exact absurd hb (by decide)
  · have := startsWith_listenerKey id up
    rw [← he] at this
    exact absurd this (by decide)
  · have := startsWith_poolKey id up
    rw [← he] at this
    exact absurd this (by decide)

theorem isPoolValue (hr : Readable env e) {b : Str × Str} (hb : b ∈ e.items)
    (hk : hasPoolPrefix b.1 = true) : IsPoolValue env b.2 := by
  have hget : e.get? b.1 = some b.2 := (Dict.get?_eq_some_iff _ _ _).mpr hb
  rcases hr.key b.1 (mem_keys_of_get? hget) with hbase | ⟨id, up, hid, he⟩ | ⟨id, up, hid, he⟩
  · rw [hasPoolPrefix_base hbase] at hk
    cases hk
  · rw [he, hasPoolPrefix_listenerKey hid] at hk
    cases hk
  · exact hr.pool id up b.2 hid (he ▸ hget)

section Services

/-- The keys that serve are those of enabled listeners. -/
theorem of_serving (hr : Readable env e) {k : Str} (hk : k ∈ e.keys) (hs : isServing k = true) :
    ∃ id n t, IsUuid id ∧ k = getListenerKey id true ∧
      e.get? k = some (makeListenerKeyValue n t) ∧ (t = [] ∨ lbExtIdsPoolPrefix <+: t) := by
  rcases hr.key k hk with hb | ⟨id, up, hid, rfl⟩ | ⟨id, up, hid, rfl⟩
  · rw [isServing, hasListenerPrefix_base hb] at hs
    cases hs
  · rw [isServing_listenerKey hid] at hs
    subst hs
    obtain ⟨v, hv⟩ := get?_of_mem_keys hk
    obtain ⟨n, t, rfl, ht⟩ := hr.listener id true v hid hv
    exact ⟨id, n, t, hid, rfl, hv, ht⟩
  · rw [isServing, hasListenerPrefix_poolKey hid] at hs
    cases hs

/-- What a listener serves: no members, or those of a pool. -/
theorem target_cases (hr : Readable env e) {t : Str} (ht : t = [] ∨ lbExtIdsPoolPrefix <+: t) :
    target e t = [] ∨
      ∃ x v, IsUuid x ∧ t = getPoolKey x true ∧ e.get? t = some v ∧ target e t = v := by
  by_cases hor : t = [] ∨ ':' ∈ t
  · exact .inl (if_pos hor)
  · rw [target, if_neg hor]
    rw [not_or] at hor
    cases hg : e.get? t with
    | none => exact .inl rfl
    | some v =>
        have hp := ht.resolve_left hor.1
        rcases hr.key t (mem_keys_of_get? hg) with hb | ⟨id, up, hid, rfl⟩ | ⟨id, up, hid, rfl⟩
        · have := startsWith_pool_base hb
          rw [Str.startsWith_iff.mpr hp] at this
          cases this
        · rw [← Str.startsWith_iff] at hp
          cases hp
        · cases up with
          | true => exact .inr ⟨id, v, hid, rfl, rfl, rfl⟩
          | false => exact absurd (by simp [getPoolKey]) hor.2

theorem target_ok (hr : Readable env e) {t : Str} (ht : t = [] ∨ lbExtIdsPoolPrefix <+: t)
    (off : Str → Bool) : ∃ b, backendsOff env off (target e t) = .ok b := by
  rcases hr.target_cases ht with hn | ⟨x, v, hx, rfl, hg, he⟩
  · exact ⟨_, by rw [hn]; rfl⟩
  · obtain ⟨ds, rfl, hds⟩ := hr.pool x true v hx hg
    rw [he]
    exact backendsOff_ok hds off

theorem frameBy_ok (hr : Readable env e) (off : Str → Bool) :
    ∃ vips, frameBy env (backendsOff env off) e = .ok vips := by
  refine OvnOctavia.frameBy_ok hr.vips hr.fips fun s hs => ?_
  rw [services_eq_map] at hs
  obtain ⟨k, hk, rfl⟩ := List.mem_map.mp hs
  rw [List.mem_filter] at hk
  obtain ⟨id, n, t, -, -, hg, ht⟩ := hr.of_serving hk.1 hk.2
  rw [hg, Option.getD_some, (serviceOf_make e n t).1]
  exact hr.target_ok ht off

/-- The traffic map of any keys with the statuses of these. -/
theorem frame_eq (hr : Readable env e) (e' : Dict Str Str) :
    frameVipIps env e e' = frameBy env (backendsOff env (offlineIn e)) e' :=
  frameVipIps_eq_off env hr.statuses e'

theorem frame_ok (hr : Readable env e) (hr' : Readable env e') :
    ∃ vips, frameVipIps env e e' = .ok vips := by
  rw [hr.frame_eq]
  exact hr'.frameBy_ok _

/-- Keys whose enabled listeners have the same ports and the same backends have
the same traffic map. -/
theorem frameBy_eq (hr : Readable env e) (ha : SameAddresses e e')
    {off off' : Str → Bool} (hkeys : e.keys.filter isServing = e'.keys.filter isServing)
    (hv : ∀ id n t, IsUuid id → e.get? (getListenerKey id true) = some (makeListenerKeyValue n t) →
      (t = [] ∨ lbExtIdsPoolPrefix <+: t) →
      ∃ t', e'.get? (getListenerKey id true) = some (makeListenerKeyValue n t') ∧
        backendsOff env off (target e t) = backendsOff env off' (target e' t')) :
    frameBy env (backendsOff env off) e = frameBy env (backendsOff env off') e' := by
  refine frameBy_congr ha hkeys fun k hk hs => ?_
  obtain ⟨id, n, t, hid, rfl, hg, ht⟩ := hr.of_serving hk hs
  obtain ⟨t', hg', hb⟩ := hv id n t hid hg ht
  rw [hg, hg', Option.getD_some, Option.getD_some]
  obtain ⟨h2, h1⟩ := serviceOf_make e n t
  obtain ⟨h2', h1'⟩ := serviceOf_make e' n t'
  rcases h1 with hn | hp
  · left
    rw [h2, h2', ← hb, hn]
    exact ⟨rfl, rfl⟩
  · rcases h1' with hn' | hp'
    · left
      rw [h2, h2', hb, hn']
      exact ⟨rfl, rfl⟩
    · right
      rw [hp, hp']
      exact ⟨rfl, hb⟩

/-- Only the statuses of the members listed count. -/
theorem frameBy_off_congr (hr : Readable env e) {off off' : Str → Bool}
    (ho : ∀ id up ds, IsUuid id → e.get? (getPoolKey id up) = some (poolValue ds) →
      (∀ d ∈ ds, d.WellFormed env) → ∀ d ∈ ds, off d.id = off' d.id) :
    frameBy env (backendsOff env off) e = frameBy env (backendsOff env off') e := by
  refine hr.frameBy_eq ⟨rfl, rfl, rfl⟩ rfl fun id n t _ hg ht => ⟨t, hg, ?_⟩
  rcases hr.target_cases ht with hn | ⟨x, v, hx, rfl, hgx, he⟩
  · rw [hn]
    rfl
  · obtain ⟨ds, rfl, hds⟩ := hr.pool x true v hx hgx
    rw [he]
    exact backendsOff_congr hds (ho x true ds hx hgx hds)

end Services

section Changes

/-- Keys with the same fixed keys, but for the peripheral ones. -/
def SameBase (e e' : Dict Str Str) : Prop :=
  ∀ k ∈ baseKeys, k ∉ peripheralKeys → e'.get? k = e.get? k

theorem SameBase.status (h : SameBase e e') :
    e'.get? ovnMemberStatusKey = e.get? ovnMemberStatusKey :=
  h _ (by decide) (by decide)

theorem SameBase.addresses (h : SameBase e e') : SameAddresses e e' := by
  refine ⟨(h _ (by decide) (by decide)).symm, ?_, ?_⟩
  · rw [lbVips, lbVips, h lbExtIdsVipKey (by decide) (by decide),
      h lbExtIdsAdditVipKey (by decide) (by decide)]
  · rw [lbFips, lbFips, h lbExtIdsVipFipKey (by decide) (by decide),
      h lbExtIdsAdditVipFipKey (by decide) (by decide)]

/-- Readable keys stay so when the fixed ones stay and every other value comes
from before or is readable itself. -/
theorem of_changes (hr : Readable env e) (hbase : SameBase e e')
    (hkey : ∀ k ∈ e'.keys, k ∈ baseKeys ∨ (∃ id up, IsUuid id ∧ k = getListenerKey id up) ∨
      ∃ id up, IsUuid id ∧ k = getPoolKey id up)
    (hlistener : ∀ id up v, IsUuid id → e'.get? (getListenerKey id up) = some v →
      (∃ up', e.get? (getListenerKey id up') = some v) ∨ IsListenerValue v)
    (hpool : ∀ id up v, IsUuid id → e'.get? (getPoolKey id up) = some v →
      (∃ up', e.get? (getPoolKey id up') = some v) ∨ IsPoolValue env v)
    (hsole : ∀ id, IsUuid id → getPoolKey id true ∈ e'.keys → getPoolKey id false ∉ e'.keys) :
    Readable env e' where
  key := hkey
  statuses := by
    rw [loadMemberStatuses_congr hbase.status, statusesIn_congr hbase.status]
    exact hr.statuses
  listener := by
    intro id up v hid hv
    rcases hlistener id up v hid hv with ⟨up', hv'⟩ | hv'
    · exact hr.listener id up' v hid hv'
    · exact hv'
  pool := by
    intro id up v hid hv
    rcases hpool id up v hid hv with ⟨up', hv'⟩ | hv'
    · exact hr.pool id up' v hid hv'
    · exact hv'
  sole := hsole
  vips := hbase.addresses.vips ▸ hr.vips
  fips := hbase.addresses.fips ▸ hr.fips

theorem sameBase_set {k : Str} (hk : k ∉ baseKeys) (v : Str) : SameBase e (e.set k v) :=
  fun _ hj _ => Dict.get?_set_of_ne e v fun h => hk (h ▸ hj)

theorem sameBase_erase {k : Str} (hk : k ∉ baseKeys) : SameBase e (e.erase k) :=
  fun _ hj _ => Dict.get?_erase_of_ne e fun h => hk (h ▸ hj)

theorem SameBase.trans {e'' : Dict Str Str} (h : SameBase e e') (h' : SameBase e' e'') :
    SameBase e e'' := fun k hk hp => (h' k hk hp).trans (h k hk hp)

theorem sameBase_of_sameKeys (h : SameKeys e e') : SameBase e e' := fun k _ hp => h.get? k hp

theorem set_listener (hr : Readable env e) {id v : Str} (hid : IsUuid id) (up : Bool)
    (hv : IsListenerValue v) : Readable env (e.set (getListenerKey id up) v) := by
  have hne : ∀ x b, getPoolKey x b ≠ getListenerKey id up :=
    fun x b h => listenerKey_ne_poolKey id x up b h.symm
  refine hr.of_changes (sameBase_set (listenerKey_notMem_base id up) v) (fun k hk => ?_)
    (fun x b w hx hw => ?_) (fun x b w hx hw => ?_) fun x hx => ?_
  · rcases (Dict.mem_keys_set _ _ _ _).mp hk with rfl | hk
    · exact .inr (.inl ⟨id, up, hid, rfl⟩)
    · exact hr.key k hk
  · rw [Dict.get?_set] at hw
    split at hw
    · cases hw
      exact .inr hv
    · exact .inl ⟨b, hw⟩
  · rw [Dict.get?_set_of_ne e v (hne x b)] at hw
    exact .inl ⟨b, hw⟩
  · rw [Dict.mem_keys_set, Dict.mem_keys_set]
    intro ht hf
    exact hr.sole x hx (ht.resolve_left (hne x true)) (hf.resolve_left (hne x false))

/-- A key of a listener or of a pool goes. -/
theorem erase (hr : Readable env e) {k : Str} (hk : k ∉ baseKeys) : Readable env (e.erase k) := by
  have hget : ∀ j v, (e.erase k).get? j = some v → e.get? j = some v := by
    intro j v hv
    rw [Dict.get?_erase] at hv
    split at hv
    · cases hv
    · exact hv
  refine hr.of_changes (sameBase_erase hk) (fun j hj => ?_)
    (fun x b w _ hw => .inl ⟨b, hget _ w hw⟩) (fun x b w _ hw => .inl ⟨b, hget _ w hw⟩)
    fun x hx => ?_
  · exact hr.key j ((Dict.mem_keys_erase _ _ _).mp hj).1
  · rw [Dict.mem_keys_erase, Dict.mem_keys_erase]
    exact fun ht hf => hr.sole x hx ht.1 hf.1

theorem set_pool (hr : Readable env e) {id v : Str} (hid : IsUuid id) {up : Bool}
    (hother : getPoolKey id (!up) ∉ e.keys) (hv : IsPoolValue env v) :
    Readable env (e.set (getPoolKey id up) v) := by
  refine hr.of_changes (sameBase_set (poolKey_notMem_base id up) v) (fun k hk => ?_)
    (fun x b w hx hw => ?_) (fun x b w hx hw => ?_) fun x hx => ?_
  · rcases (Dict.mem_keys_set _ _ _ _).mp hk with rfl | hk
    · exact .inr (.inr ⟨id, up, hid, rfl⟩)
    · exact hr.key k hk
  · rw [Dict.get?_set_of_ne e v (listenerKey_ne_poolKey x id b up)] at hw
    exact .inl ⟨b, hw⟩
  · rw [Dict.get?_set] at hw
    split at hw
    · cases hw
      exact .inr hv
    · exact .inl ⟨b, hw⟩
  · rw [Dict.mem_keys_set, Dict.mem_keys_set]
    by_cases hxi : x = id
    · subst hxi
      intro ht hf
      cases up with
      | true => exact hother (hf.resolve_left (getPoolKey_true_ne_false x).symm)
      | false => exact hother (ht.resolve_left (getPoolKey_true_ne_false x))
    · have hne : ∀ b, getPoolKey x b ≠ getPoolKey id up :=
        fun b h => hxi (getPoolKey_inj hx hid h).1
      exact fun ht hf => hr.sole x hx (ht.resolve_left (hne true)) (hf.resolve_left (hne false))

theorem of_sameKeys (hr : Readable env e) (hs : SameKeys e e') : Readable env e' := by
  have hpool : ∀ x b, e'.get? (getPoolKey x b) = e.get? (getPoolKey x b) := fun x b =>
    hs.get? _ (Table.notMem_peripheralKeys (poolKey_notMem_base x b))
  have hlistener : ∀ x b, e'.get? (getListenerKey x b) = e.get? (getListenerKey x b) := fun x b =>
    hs.get? _ (Table.notMem_peripheralKeys (listenerKey_notMem_base x b))
  refine hr.of_changes (sameBase_of_sameKeys hs) (fun k hk => ?_)
    (fun x b w _ hw => .inl ⟨b, hlistener x b ▸ hw⟩) (fun x b w _ hw => .inl ⟨b, hpool x b ▸ hw⟩)
    fun x hx => ?_
  · by_cases hb : k ∈ baseKeys
    · exact .inl hb
    · exact hr.key k ((Table.mem_keys_of_sameKeys hs hb).mp hk)
  · rw [Table.mem_keys_of_sameKeys hs (poolKey_notMem_base x true),
      Table.mem_keys_of_sameKeys hs (poolKey_notMem_base x false)]
    exact hr.sole x hx

end Changes

section Statuses

theorem get?_withStatuses {k : Str} (hk : k ≠ ovnMemberStatusKey) (e d : Dict Str Str) :
    (withStatuses e d).get? k = e.get? k := by
  rw [withStatuses]
  split
  · exact Dict.get?_erase_of_ne e hk
  · exact Dict.get?_set_of_ne e _ hk

theorem mem_keys_withStatuses {k : Str} (hk : k ≠ ovnMemberStatusKey) (e d : Dict Str Str) :
    k ∈ (withStatuses e d).keys ↔ k ∈ e.keys := by
  rw [← Dict.contains_iff, ← Dict.contains_iff, Dict.contains, Dict.contains,
    get?_withStatuses hk]

/-- The status map is read back as it was written. -/
theorem loadMemberStatuses_withStatuses (e d : Dict Str Str) :
    loadMemberStatuses (withStatuses e d) = .ok d := by
  by_cases hd : d.items = []
  · rw [withStatuses, if_pos hd, loadMemberStatuses, Dict.get?_erase_self]
    exact congrArg Except.ok (Dict.ext_items hd.symm)
  · rw [withStatuses, if_neg hd, loadMemberStatuses, Dict.get?_set_self]
    simp only [Json.loadsTexts_dumpsTexts]

theorem statusesIn_withStatuses (e d : Dict Str Str) : statusesIn (withStatuses e d) = d := by
  rw [statusesIn, loadMemberStatuses_withStatuses]

theorem withStatuses_ne {k : Str} (hk : k ∉ baseKeys) : k ≠ ovnMemberStatusKey :=
  fun h => hk (h ▸ by decide)

theorem withStatuses (hr : Readable env e) (d : Dict Str Str) :
    Readable env (withStatuses e d) := by
  have hne : ∀ k ∈ [enabledKey, lbExtIdsVipKey, lbExtIdsAdditVipKey, lbExtIdsVipFipKey,
      lbExtIdsAdditVipFipKey], k ≠ ovnMemberStatusKey := by decide
  have hget : ∀ k ∈ [enabledKey, lbExtIdsVipKey, lbExtIdsAdditVipKey, lbExtIdsVipFipKey,
      lbExtIdsAdditVipFipKey], (OvnOctavia.withStatuses e d).get? k = e.get? k :=
    fun k hk => get?_withStatuses (hne k hk) e d
  have hpool := fun x b => withStatuses_ne (poolKey_notMem_base x b)
  have hlistener := fun x b => withStatuses_ne (listenerKey_notMem_base x b)
  refine ⟨fun k hk => ?_, ?_, fun id up v hid hv => ?_, fun id up v hid hv => ?_,
    fun id hid => ?_, ?_, ?_⟩
  · by_cases hb : k ∈ baseKeys
    · exact .inl hb
    · exact hr.key k ((mem_keys_withStatuses (withStatuses_ne hb) e d).mp hk)
  · rw [loadMemberStatuses_withStatuses, statusesIn_withStatuses]
  · rw [get?_withStatuses (hlistener id up)] at hv
    exact hr.listener id up v hid hv
  · rw [get?_withStatuses (hpool id up)] at hv
    exact hr.pool id up v hid hv
  · rw [mem_keys_withStatuses (hpool id true), mem_keys_withStatuses (hpool id false)]
    exact hr.sole id hid
  · rw [lbVips, hget _ (by simp), hget _ (by simp)]
    exact hr.vips
  · rw [lbFips, hget _ (by simp), hget _ (by simp)]
    exact hr.fips

end Statuses

end Readable

end OvnOctavia
