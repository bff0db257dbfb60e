import OvnOctavia.Attaching

/-!
Changes of the keys of a row that leave its traffic map: peripheral keys, a new pool for a
listener that serves none, the listeners and the second key of a pool that goes, and member
statuses that are read apart from the keys.
-/

namespace OvnOctavia

section Serving
variable {e e' : Dict Str Str} {k v : Str}

theorem serving_set (hk : isServing k = false) :
    (e.set k v).keys.filter isServing = e.keys.filter isServing := by
  rw [Dict.keys_set]
  split
  · rfl
  · rw [List.filter_append]
    simp [hk]

theorem serving_set_of_mem (hk : k ∈ e.keys) :
    (e.set k v).keys.filter isServing = e.keys.filter isServing := by
  rw [Dict.keys_set, if_pos hk]

theorem serving_erase (hk : isServing k = false) :
    (e.erase k).keys.filter isServing = e.keys.filter isServing := by
  rw [Dict.keys_erase, List.filter_filter]
  refine List.filter_congr fun j _ => ?_
  by_cases hj : j = k
  · simp [hj, hk]
  · simp [hj]

theorem not_serving_base (hk : k ∈ baseKeys) : isServing k = false := by
  rw [isServing, hasListenerPrefix_base hk, Bool.false_and]

theorem not_serving_poolKey {id : Str} (hid : IsUuid id) (up : Bool) :
    isServing (getPoolKey id up) = false := by
  rw [isServing, hasListenerPrefix_poolKey hid, Bool.false_and]

theorem SameKeys.set_both (hs : SameKeys e e') (v : Str) (hk : k ∉ peripheralKeys) :
    SameKeys (e.set k v) (e'.set k v) where
  keys := by
    have hiff : k ∈ e'.keys ↔ k ∈ e.keys := by
      rw [← Dict.contains_iff, ← Dict.contains_iff, Dict.contains, Dict.contains, hs.get? k hk]
    rw [Dict.keys_set, Dict.keys_set]
    by_cases hm : k ∈ e.keys
    · rw [if_pos hm, if_pos (hiff.mpr hm), hs.keys]
    · rw [if_neg hm, if_neg (hm ∘ hiff.mp), List.filter_append, List.filter_append, hs.keys]
  get? := by
    intro j hj
    rw [Dict.get?_set, Dict.get?_set, hs.get? j hj]

theorem serving_of_sameKeys (hs : SameKeys e e') :
    e'.keys.filter isServing = e.keys.filter isServing := by
  have hserving : ∀ l : List Str,
      (l.filter (· ∉ peripheralKeys)).filter isServing = l.filter isServing := by
    intro l
    rw [List.filter_filter]
    refine List.filter_congr fun j _ => ?_
    by_cases hj : j ∈ peripheralKeys
    · have hbase : j ∈ baseKeys := by
        by_contra hn
        exact Table.notMem_peripheralKeys hn hj
      simp [hj, not_serving_base hbase]
    · simp [hj]
  rw [← hserving e'.keys, hs.keys, hserving]

theorem serving_withStatuses (e d : Dict Str Str) :
    (withStatuses e d).keys.filter isServing = e.keys.filter isServing := by
  have hk : isServing ovnMemberStatusKey = false := not_serving_base (by decide)
  rw [withStatuses]
  split
  · exact serving_erase hk
  · exact serving_set hk

end Serving

section Frames
variable {env : Env} {e e' : Dict Str Str} {off off' : Str → Bool}

namespace Readable

theorem target_congr (hr : Readable env e) (hr' : Readable env e') {t : Str}
    (ht : t = [] ∨ lbExtIdsPoolPrefix <+: t)
    (h : ∀ x, IsUuid x → t = getPoolKey x true → (e'.get? t).getD [] = (e.get? t).getD []) :
    target e' t = target e t := by
  have hkey : ∀ x, IsUuid x → t = getPoolKey x true → target e' t = target e t := by
    intro x hx he
    have hget := h x hx he
    subst he
    rw [target_poolKey hx, target_poolKey hx, hget]
  rcases hr.target_cases ht with hn | ⟨x, v, hx, he, -, -⟩
  · rcases hr'.target_cases ht with hn' | ⟨x, v, hx, he, -, -⟩
    · rw [hn, hn']
    · exact hkey x hx he
  · exact hkey x hx he

/-- Keys whose enabled listeners serve the same have the same traffic map. -/
theorem frame_congr (hr : Readable env e) (hb : SameBase e e')
    (hkeys : e'.keys.filter isServing = e.keys.filter isServing)
    (hv : ∀ id n t, IsUuid id → e.get? (getListenerKey id true) = some (makeListenerKeyValue n t) →
      (t = [] ∨ lbExtIdsPoolPrefix <+: t) →
      ∃ t', e'.get? (getListenerKey id true) = some (makeListenerKeyValue n t') ∧
        target e' t' = target e t) :
    frameVipIps env e' e' = frameVipIps env e e := by
  rw [frameVipIps_congr_row hb.status, hr.frame_eq, hr.frame_eq]
  refine (hr.frameBy_eq hb.addresses hkeys.symm fun id n t hid hg ht => ?_).symm
  obtain ⟨t', hg', htarget⟩ := hv id n t hid hg ht
  exact ⟨t', hg', by rw [htarget]⟩

theorem listener_target (hr : Readable env e) {l : Str} {n : Nat} {t : Str} {up : Bool}
    (hl : IsUuid l) (hg : e.get? (getListenerKey l up) = some (makeListenerKeyValue n t)) :
    t = [] ∨ lbExtIdsPoolPrefix <+: t := by
  obtain ⟨m, s, he, hs⟩ := hr.listener l up _ hl hg
  exact (makeListenerKeyValue_inj he).2 ▸ hs

theorem frameBy_of_sameKeys (hr : Readable env e) (hs : SameKeys e e') :
    frameBy env (backendsOff env off) e' = frameBy env (backendsOff env off) e := by
  refine (hr.frameBy_eq (sameBase_of_sameKeys hs).addresses (serving_of_sameKeys hs).symm
    fun id n t hid hg ht => ⟨t, ?_, ?_⟩).symm
  · rw [hs.get? _ (Table.notMem_peripheralKeys (listenerKey_notMem_base id true)), hg]
  · rw [hr.target_congr (hr.of_sameKeys hs) ht fun x _ he => by
      rw [he, samePools_of_sameKeys hs]]

theorem statusesIn_of_sameKeys (hs : SameKeys e e') : statusesIn e' = statusesIn e :=
  statusesIn_congr (sameBase_of_sameKeys hs).status

theorem frame_of_sameKeys (hr : Readable env e) (hs : SameKeys e e') :
    frameVipIps env e' e' = frameVipIps env e e := by
  rw [(hr.of_sameKeys hs).frame_eq, hr.frame_eq, hr.frameBy_of_sameKeys hs, offlineIn, offlineIn,
    statusesIn_of_sameKeys hs]

/-- The traffic map of keys with another status map. -/
theorem frame_withStatuses (hr : Readable env e) (d : Dict Str Str) :
    frameVipIps env (OvnOctavia.withStatuses e d) (OvnOctavia.withStatuses e d) =
      frameBy env (backendsOff env (isOffline d)) e := by
  rw [frameVipIps_eq_off env (loadMemberStatuses_withStatuses e d)]
  have hne : ∀ k ∈ [enabledKey, lbExtIdsVipKey, lbExtIdsAdditVipKey, lbExtIdsVipFipKey,
      lbExtIdsAdditVipFipKey], k ≠ ovnMemberStatusKey := by decide
  have hget : ∀ k ∈ [enabledKey, lbExtIdsVipKey, lbExtIdsAdditVipKey, lbExtIdsVipFipKey,
      lbExtIdsAdditVipFipKey], (OvnOctavia.withStatuses e d).get? k = e.get? k :=
    fun k hk => get?_withStatuses (hne k hk) e d
  have ha : SameAddresses e (OvnOctavia.withStatuses e d) := by
    refine ⟨(hget _ (by simp)).symm, ?_, ?_⟩
    · rw [lbVips, lbVips, hget _ (by simp), hget _ (by simp)]
    · rw [lbFips, lbFips, hget _ (by simp), hget _ (by simp)]
  refine (hr.frameBy_eq ha (serving_withStatuses e d).symm fun id n t hid hg ht => ⟨t, ?_, ?_⟩).symm
  · rw [get?_withStatuses (withStatuses_ne (listenerKey_notMem_base id true)), hg]
  · rw [hr.target_congr (hr.withStatuses d) ht fun x _ he => by rw [he, samePools_withStatuses]]

end Readable

section Creating
variable {info : PoolInfo} {up : Bool}

private theorem length_poolKey {id : Str} (hid : IsUuid id) (up : Bool) :
    41 ≤ (getPoolKey id up).length := by
  simp [getPoolKey, hid.1, lbExtIdsPoolPrefix]

/-- A pool that is appended to a value is named by it where nothing was named. -/
theorem eq_of_appended {id x s : Str} (hid : IsUuid id) (hx : IsUuid x)
    (h : s ++ getPoolKey id up = getPoolKey x true) : s = [] ∧ id = x := by
  have hlen := congrArg List.length h
  have hkey := length_poolKey hid up
  have hx' : (getPoolKey x true).length = 41 := by simp [getPoolKey, hx.1, lbExtIdsPoolPrefix]
  rw [List.length_append, hx'] at hlen
  have hnil : s = [] := List.length_eq_zero_iff.mp (by omega)
  subst hnil
  exact ⟨rfl, (getPoolKey_inj hid hx h).1⟩

/-- A listener that a new pool is appended to serves no members. -/
theorem target_appended {t : Str} (hr : Readable env e) (hid : IsUuid info.id)
    (ht : t = [] ∨ lbExtIdsPoolPrefix <+: t)
    (hvalue : e.get? (getPoolKey info.id up) = some []) :
    target e (t ++ getPoolKey info.id up) = [] := by
  have hprefix : lbExtIdsPoolPrefix <+: t ++ getPoolKey info.id up := by
    rcases ht with rfl | ⟨s, rfl⟩
    · exact poolPrefix_poolKey info.id up
    · exact ⟨s ++ getPoolKey info.id up, by simp⟩
  rcases hr.target_cases (.inr hprefix) with hn | ⟨x, v, hx, he, hg, hv⟩
  · exact hn
  · obtain ⟨rfl, -⟩ := eq_of_appended hid hx he
    rw [List.nil_append] at hg hv ⊢
    rw [hvalue, Option.some.injEq] at hg
    rw [hv, ← hg]

/-- A new pool changes no traffic when its listener names none. -/
theorem Readable.frame_poolCreated (hr : Readable env e) (hid : IsUuid info.id)
    (hl : ∀ l, listenerOf info = some l → IsUuid l)
    (hnew : ∀ b, getPoolKey info.id b ∉ e.keys)
    (hnone : ∀ l n t, listenerOf info = some l →
      e.get? (getListenerKey l true) = some (makeListenerKeyValue n t) → target e t = []) :
    frameVipIps env (OvnOctavia.poolCreateExternalIds info up e)
        (OvnOctavia.poolCreateExternalIds info up e) = frameVipIps env e e := by
  have hr' := hr.poolCreateExternalIds hid hl (hnew (!up))
  have hvalue : (OvnOctavia.poolCreateExternalIds info up e).get? (getPoolKey info.id up) =
      some [] := by
    rw [get?_poolCreateExternalIds, Dict.get?_set_self]
  have hsame : ∀ t, (t = [] ∨ lbExtIdsPoolPrefix <+: t) →
      target (OvnOctavia.poolCreateExternalIds info up e) t = target e t := by
    intro t ht
    refine hr.target_congr hr' ht fun x _ he => ?_
    rw [he, get?_poolCreateExternalIds, Dict.get?_set]
    split
    · next hx => rw [hx, (Dict.get?_eq_none_iff _ _).mpr (hnew up)]; rfl
    · rfl
  have hset := sameBase_set (e := e) (poolKey_notMem_base info.id up) []
  have hserving := serving_set (e := e) (v := []) (not_serving_poolKey hid up)
  rcases poolCreateExternalIds_cases info up e with he | ⟨l, v, hlis, hv, hc, he⟩
  · rw [he] at hsame ⊢
    refine hr.frame_congr hset hserving fun id n t _ hg ht => ⟨t, ?_, hsame t ht⟩
    rw [Dict.get?_set_of_ne _ _ (listenerKey_ne_poolKey id _ true up), hg]
  · obtain ⟨m, s, rfl, hs⟩ := hr.listener l true v (hl l hlis) hv
    have hmem : getListenerKey l true ∈ (e.set (getPoolKey info.id up) []).keys :=
      (Dict.mem_keys_set _ _ _ _).mpr (.inr (mem_keys_of_get? hv))
    have happended := target_appended hr' hid hs hvalue
    rw [he] at hsame happended ⊢
    refine hr.frame_congr (hset.trans (sameBase_set (listenerKey_notMem_base l true) _))
      ((serving_set_of_mem hmem).trans hserving) fun id n t hid' hg ht => ?_
    by_cases hil : id = l
    · subst hil
      rw [hg, Option.some.injEq] at hv
      obtain ⟨rfl, rfl⟩ := makeListenerKeyValue_inj hv
      refine ⟨t ++ getPoolKey info.id up, ?_, ?_⟩
      · rw [Dict.get?_set_self, makeListenerKeyValue_append]
      · rw [happended, hnone id n t hlis hg]
    · have hne : getListenerKey id true ≠ getListenerKey l true :=
        fun h => hil (getListenerKey_inj hid' (hl l hlis) h).1
      refine ⟨t, ?_, hsame t ht⟩
      rw [Dict.get?_set_of_ne _ _ hne,
        Dict.get?_set_of_ne _ _ (listenerKey_ne_poolKey id _ true up), hg]

end Creating

section Deleting

/-- Detaching leaves the value of a listener, or empties one that contains the key. -/
theorem Readable.get?_detached (hr : Readable env e) {id : Str} {l : Str} {up : Bool} {n : Nat}
    {t : Str} (hg : e.get? (getListenerKey l up) = some (makeListenerKeyValue n t)) :
    (OvnOctavia.poolDeletedKeys id e).get? (getListenerKey l up) =
        some (makeListenerKeyValue n t) ∨
      Str.contains (getPoolKey id true) (makeListenerKeyValue n t) = true ∧
        (OvnOctavia.poolDeletedKeys id e).get? (getListenerKey l up) =
          some (makeListenerKeyValue n []) := by
  have hne : ∀ b, getListenerKey l up ≠ getPoolKey id b := listenerKey_ne_poolKey l id up
  rw [OvnOctavia.poolDeletedKeys, Dict.get?_erase_of_ne _ (hne false)]
  refine detach_induction (P := fun acc : Dict Str Str =>
    acc.get? (getListenerKey l up) = some (makeListenerKeyValue n t) ∨
      Str.contains (getPoolKey id true) (makeListenerKeyValue n t) = true ∧
        acc.get? (getListenerKey l up) = some (makeListenerKeyValue n [])) hr ?_ ?_
  · exact .inl (by rw [Dict.get?_erase_of_ne _ (hne true), hg])
  · intro acc x b m s hacc hx hxs hc
    by_cases hkey : getListenerKey l up = getListenerKey x b
    · rw [← hkey, hg, Option.some.injEq] at hxs
      obtain ⟨rfl, rfl⟩ := makeListenerKeyValue_inj hxs
      exact .inr ⟨hc, by rw [hkey, Dict.get?_set_self]⟩
    · rw [Dict.get?_set_of_ne _ _ hkey]
      exact hacc

/-- The keys without a pool serve what they serve without its enabled key. -/
theorem Readable.frame_poolDeleted (hr : Readable env e) {id : Str} (hid : IsUuid id) :
    frameVipIps env (OvnOctavia.poolDeletedKeys id e) (OvnOctavia.poolDeletedKeys id e) =
      frameVipIps env (e.erase (getPoolKey id true)) (e.erase (getPoolKey id true)) := by
  have hr₀ := hr.erase (poolKey_notMem_base id true)
  have hr' := hr.poolDeletedKeys id
  have hbase : SameBase (e.erase (getPoolKey id true)) (OvnOctavia.poolDeletedKeys id e) := by
    refine SameBase.trans ?_ (sameBase_erase (poolKey_notMem_base id false))
    exact detach_induction hr (P := SameBase (e.erase (getPoolKey id true))) (fun _ _ _ => rfl)
      fun acc x up n t hacc hx _ _ => hacc.trans (sameBase_set (listenerKey_notMem_base x up) _)
  have hserving : (OvnOctavia.poolDeletedKeys id e).keys.filter isServing =
      (e.erase (getPoolKey id true)).keys.filter isServing := by
    rw [OvnOctavia.poolDeletedKeys, serving_erase (not_serving_poolKey hid false), keys_detachPool]
  refine hr₀.frame_congr hbase hserving fun l n t hl hg ht => ?_
  rw [Dict.get?_erase_of_ne _ (listenerKey_ne_poolKey l id true true)] at hg
  have hget : ∀ x, IsUuid x → (OvnOctavia.poolDeletedKeys id e).get? (getPoolKey x true) =
      (e.erase (getPoolKey id true)).get? (getPoolKey x true) := by
    intro x hx
    rw [get?_poolDeletedKeys hr hid hx, Dict.get?_erase]
    by_cases hxi : x = id
    · rw [if_pos hxi, if_pos (by rw [hxi])]
    · rw [if_neg hxi, if_neg fun h => hxi (getPoolKey_inj hx hid h).1]
  rcases @get?_detached _ _ hr id _ _ _ _ hg with hkept | ⟨hc, hempty⟩
  · exact ⟨t, hkept, hr₀.target_congr hr' ht fun x hx he => by rw [he, hget x hx]⟩
  · refine ⟨[], hempty, ?_⟩
    -- the listener named the pool, or nothing that is there
    rcases hr₀.target_cases ht with hn | ⟨x, v, hx, rfl, hv, -⟩
    · rw [hn]
      rfl
    · rw [Str.contains_iff] at hc
      obtain rfl := poolKey_infix_value hid hx hc
      rw [Dict.get?_erase_self] at hv
      cases hv

end Deleting

end Frames

end OvnOctavia
