import OvnOctavia.Readable

/-!
The keys each request on listeners and pools leaves: they stay readable, the
requests on listeners leave the pools alone, and the requests on a pool leave the
other pools alone.
-/

namespace OvnOctavia

/-- The same pools with the same values. -/
def SamePools (e e' : Dict Str Str) : Prop :=
  ∀ id up, e'.get? (getPoolKey id up) = e.get? (getPoolKey id up)

theorem SamePools.trans {e e' e'' : Dict Str Str} (h : SamePools e e') (h' : SamePools e' e'') :
    SamePools e e'' := fun id up => (h' id up).trans (h id up)

theorem samePools_set_listener (e : Dict Str Str) (id v : Str) (up : Bool) :
    SamePools e (e.set (getListenerKey id up) v) :=
  fun x b => Dict.get?_set_of_ne e v fun h => listenerKey_ne_poolKey id x up b h.symm

theorem samePools_erase_listener (e : Dict Str Str) (id : Str) (up : Bool) :
    SamePools e (e.erase (getListenerKey id up)) :=
  fun x b => Dict.get?_erase_of_ne e fun h => listenerKey_ne_poolKey id x up b h.symm

theorem samePools_of_sameKeys {e e' : Dict Str Str} (h : SameKeys e e') : SamePools e e' :=
  fun x b => h.get? _ (Table.notMem_peripheralKeys (poolKey_notMem_base x b))

theorem samePools_withStatuses (e d : Dict Str Str) : SamePools e (withStatuses e d) :=
  fun x b => Readable.get?_withStatuses (Readable.withStatuses_ne (poolKey_notMem_base x b)) e d

section Listeners
variable {env : Env} {e : Dict Str Str} {info : ListenerInfo}

theorem isListenerValue_make {t : Str} (n : Nat) (ht : t = [] ∨ lbExtIdsPoolPrefix <+: t) :
    IsListenerValue (makeListenerKeyValue n t) := ⟨n, t, rfl, ht⟩

theorem defaultPoolKey_cases (info : ListenerInfo) :
    defaultPoolKey info = [] ∨ lbExtIdsPoolPrefix <+: defaultPoolKey info := by
  unfold defaultPoolKey
  split
  · exact .inr (poolPrefix_poolKey _ _)
  · exact .inl rfl

theorem samePools_updatedListenerKeys {id : Str} {up : Bool} (hid : info.id = id) (value : Str)
    (e : Dict Str Str) :
    SamePools e (updatedListenerKeys info (getListenerKey id up) value e) := by
  obtain ⟨up', hnew⟩ : ∃ up', (info.adminStateUp.map (getListenerKey info.id)).getD
      (getListenerKey id up) = getListenerKey id up' := by
    cases info.adminStateUp with
    | none => exact ⟨up, rfl⟩
    | some b => exact ⟨b, by rw [hid]; rfl⟩
  simp only [updatedListenerKeys, hnew]
  have hmoved : SamePools e (if getListenerKey id up ≠ getListenerKey id up' then
      (e.set (getListenerKey id up') value).erase (getListenerKey id up) else e) := by
    split
    · exact (samePools_set_listener e id value up').trans (samePools_erase_listener _ id up)
    · exact fun _ _ => rfl
  split
  · exact hmoved.trans (samePools_set_listener _ id _ up')
  · exact hmoved

theorem Readable.updatedListenerKeys (hr : Readable env e) {id : Str} {up : Bool} {value : Str}
    (hid : IsUuid id) (hi : info.id = id) (hv : e.get? (getListenerKey id up) = some value) :
    Readable env (updatedListenerKeys info (getListenerKey id up) value e) := by
  obtain ⟨up', hnew⟩ : ∃ up', (info.adminStateUp.map (getListenerKey info.id)).getD
      (getListenerKey id up) = getListenerKey id up' := by
    cases info.adminStateUp with
    | none => exact ⟨up, rfl⟩
    | some b => exact ⟨b, by rw [hi]; rfl⟩
  simp only [OvnOctavia.updatedListenerKeys, hnew]
  have hvalue := hr.listener id up value hid hv
  have hmoved : Readable env (if getListenerKey id up ≠ getListenerKey id up' then
      (e.set (getListenerKey id up') value).erase (getListenerKey id up) else e) := by
    split
    · exact (hr.set_listener hid up' hvalue).erase (listenerKey_notMem_base id up)
    · exact hr
  split
  · exact hmoved.set_listener hid up' (isListenerValue_make _ (.inr (poolPrefix_poolKey _ _)))
  · exact hmoved

end Listeners

section Creating
variable {env : Env} {e : Dict Str Str} {info : PoolInfo}

/-- The value of a listener that a new pool is attached to. -/
theorem isListenerValue_append {v : Str} (hv : IsListenerValue v) (id : Str) (up : Bool) :
    IsListenerValue (v ++ getPoolKey id up) := by
  obtain ⟨n, t, rfl, ht⟩ := hv
  rw [makeListenerKeyValue_append]
  refine isListenerValue_make n (.inr ?_)
  rcases ht with rfl | ⟨s, rfl⟩
  · exact poolPrefix_poolKey id up
  · exact ⟨s ++ getPoolKey id up, by simp⟩

/-- The new pool's key, and at most one listener value besides. -/
theorem poolCreateExternalIds_cases (info : PoolInfo) (up : Bool) (e : Dict Str Str) :
    poolCreateExternalIds info up e = e.set (getPoolKey info.id up) [] ∨
      ∃ l v, listenerOf info = some l ∧ e.get? (getListenerKey l true) = some v ∧
        Str.contains (getPoolKey info.id up) v = false ∧
        poolCreateExternalIds info up e = (e.set (getPoolKey info.id up) []).set
          (getListenerKey l true) (v ++ getPoolKey info.id up) := by
  unfold poolCreateExternalIds
  dsimp only
  split
  · next c l hl =>
      split
      · exact .inl rfl
      · next v hv =>
          split
          · exact .inl rfl
          · next hc =>
              refine .inr ⟨c :: l, v, ?_, hv, by simpa using hc, rfl⟩
              rw [listenerOf, hl]
  · exact .inl rfl

theorem get?_poolCreateExternalIds (info : PoolInfo) (up : Bool) (e : Dict Str Str) (id : Str)
    (b : Bool) : (poolCreateExternalIds info up e).get? (getPoolKey id b) =
      (e.set (getPoolKey info.id up) []).get? (getPoolKey id b) := by
  rcases poolCreateExternalIds_cases info up e with h | ⟨l, v, -, -, -, h⟩
  · rw [h]
  · rw [h]
    exact samePools_set_listener _ l _ true id b

theorem Readable.poolCreateExternalIds (hr : Readable env e) (hid : IsUuid info.id) {up : Bool}
    (hl : ∀ l, listenerOf info = some l → IsUuid l)
    (hother : getPoolKey info.id (!up) ∉ e.keys) :
    Readable env (poolCreateExternalIds info up e) := by
  have hset := hr.set_pool hid hother (⟨[], rfl, nofun⟩ : IsPoolValue env [])
  rcases poolCreateExternalIds_cases info up e with h | ⟨l, v, hlis, hv, -, h⟩
  · rw [h]
    exact hset
  · rw [h]
    have hval := hr.listener l true v (hl l hlis) hv
    exact hset.set_listener (hl l hlis) true (isListenerValue_append hval info.id up)

end Creating

section Deleting
variable {env : Env} {e : Dict Str Str}

/-- What detaching a pool does to one key: nothing, or it empties the value of a
listener that names the pool. -/
theorem detach_induction {P : Dict Str Str → Prop} (hr : Readable env e) {poolKey : Str}
    {acc : Dict Str Str} (hacc : P acc)
    (hstep : ∀ acc id up n t, P acc → IsUuid id →
      e.get? (getListenerKey id up) = some (makeListenerKeyValue n t) →
      Str.contains poolKey (makeListenerKeyValue n t) = true →
      P (acc.set (getListenerKey id up) (makeListenerKeyValue n []))) :
    P (detachPool poolKey e acc) := by
  rw [detachPool]
  have hmem : ∀ b ∈ e.items, e.get? b.1 = some b.2 :=
    fun b hb => (Dict.get?_eq_some_iff _ _ _).mpr hb
  generalize e.items = l at hmem
  induction l generalizing acc with
  | nil => exact hacc
  | cons b l ih =>
      rw [List.foldl_cons]
      refine ih ?_ fun c hc => hmem c (List.mem_cons_of_mem b hc)
      rw [detachListener]
      split
      · next hc =>
          rw [Bool.and_eq_true] at hc
          have hb := hmem b (List.mem_cons_self ..)
          rcases hr.key b.1 (mem_keys_of_get? hb) with hk | ⟨id, up, hid, hk⟩ | ⟨id, up, hid, hk⟩
          · rw [startsWith_listener_base hk] at hc
            cases hc.1
          · rw [hk] at hb ⊢
            obtain ⟨n, t, hv, -⟩ := hr.listener id up b.2 hid hb
            rw [hv] at hb hc ⊢
            rw [headD_splitOn_listenerValue]
            exact hstep acc id up n t hacc hid hb hc.2
          · rw [hk, startsWith_listener_poolKey] at hc
            cases hc.1
      · exact hacc

theorem Readable.poolDeletedKeys (hr : Readable env e) (id : Str) :
    Readable env (poolDeletedKeys id e) := by
  have hdetach : Readable env (detachPool (getPoolKey id true) e (e.erase (getPoolKey id true))) :=
    detach_induction hr (P := Readable env) (hr.erase (poolKey_notMem_base id true))
      fun acc x up n t hacc hx _ _ => hacc.set_listener hx up (isListenerValue_make n (.inl rfl))
  exact hdetach.erase (poolKey_notMem_base id false)

/-- A deleted pool has no key, the others keep theirs. -/
theorem get?_poolDeletedKeys (hr : Readable env e) {id : Str} (hid : IsUuid id) {x : Str}
    (hx : IsUuid x) (up : Bool) : (poolDeletedKeys id e).get? (getPoolKey x up) =
      if x = id then none else e.get? (getPoolKey x up) := by
  have hdetach : SamePools (e.erase (getPoolKey id true))
      (detachPool (getPoolKey id true) e (e.erase (getPoolKey id true))) :=
    detach_induction hr (P := SamePools (e.erase (getPoolKey id true))) (fun _ _ => rfl)
      fun acc x up n t hacc _ _ _ => hacc.trans (samePools_set_listener acc x _ up)
  rw [OvnOctavia.poolDeletedKeys, Dict.get?_erase]
  by_cases hxi : x = id
  · subst hxi
    rw [if_pos rfl]
    split
    · rfl
    · next hne =>
        cases up with
        | true => rw [hdetach, Dict.get?_erase_self]
        | false => exact absurd rfl hne
  · rw [if_neg hxi]
    have hne : ∀ b, getPoolKey x up ≠ getPoolKey id b := fun b h => hxi (getPoolKey_inj hx hid h).1
    rw [if_neg (hne false), hdetach, Dict.get?_erase_of_ne _ (hne true)]

end Deleting

section Moving
variable {env : Env} {e : Dict Str Str} {id : Str} {up : Bool}

theorem getPoolKey_ne_not (id : Str) (up : Bool) : getPoolKey id up ≠ getPoolKey id (!up) := by
  cases up
  · exact (getPoolKey_true_ne_false id).symm
  · exact getPoolKey_true_ne_false id

theorem get?_movedPoolKeys_of_ne {k fromKey toKey : Str} (hf : k ≠ fromKey) (ht : k ≠ toKey)
    (e : Dict Str Str) : (OvnOctavia.movedPoolKeys fromKey toKey e).get? k = e.get? k := by
  unfold OvnOctavia.movedPoolKeys
  split
  · rfl
  · rw [Dict.get?_erase_of_ne _ hf, Dict.get?_set_of_ne _ _ ht]

theorem movedPoolKeys_of_none (h : e.get? (getPoolKey id (!up)) = none) :
    movedPoolKeys (getPoolKey id (!up)) (getPoolKey id up) e = e := by
  rw [movedPoolKeys, h]

theorem movedPoolKeys_of_some {v : Str} (h : e.get? (getPoolKey id (!up)) = some v) :
    movedPoolKeys (getPoolKey id (!up)) (getPoolKey id up) e =
      (e.erase (getPoolKey id (!up))).set (getPoolKey id up) v := by
  rw [movedPoolKeys, h]
  exact Dict.erase_set_of_ne e v (getPoolKey_ne_not id up)

theorem Readable.movedPoolKeys (hr : Readable env e) (hid : IsUuid id) (up : Bool) :
    Readable env (movedPoolKeys (getPoolKey id (!up)) (getPoolKey id up) e) := by
  cases h : e.get? (getPoolKey id (!up)) with
  | none => rwa [movedPoolKeys_of_none h]
  | some v =>
      rw [movedPoolKeys_of_some h]
      refine (hr.erase (poolKey_notMem_base id (!up))).set_pool hid ?_ (hr.pool id (!up) v hid h)
      rw [Dict.mem_keys_erase]
      exact fun hm => hm.2 rfl

end Moving

section Base
variable {env : Env}

theorem Readable.of_base {e : Dict Str Str} (hk : ∀ k ∈ e.keys, k ∈ baseKeys)
    (hs : ovnMemberStatusKey ∉ e.keys) (hvips : ∀ a ∈ lbVips e, (env.ipVersion a).isSome)
    (hfips : ∀ a ∈ lbFips e, (env.ipVersion a).isSome) : Readable env e where
  key := fun k hm => .inl (hk k hm)
  statuses := by
    have hnone := (Dict.get?_eq_none_iff _ _).mpr hs
    rw [statusesIn, loadMemberStatuses, hnone]
  listener := fun id up _ _ hv =>
    absurd (hk _ (mem_keys_of_get? hv)) (listenerKey_notMem_base id up)
  pool := fun id up _ _ hv => absurd (hk _ (mem_keys_of_get? hv)) (poolKey_notMem_base id up)
  sole := fun id _ ht => absurd (hk _ ht) (poolKey_notMem_base id true)
  vips := hvips
  fips := hfips

theorem frameBy_of_base {e : Dict Str Str} (hk : ∀ k ∈ e.keys, k ∈ baseKeys)
    (back : Str → Except Exc Backends) : frameBy env back e = .ok ∅ := by
  have hnil : e.keys.filter isServing = [] := by
    rw [List.filter_eq_nil_iff]
    intro k hm
    rw [isServing, hasListenerPrefix_base (hk k hm)]
    exact Bool.false_ne_true
  rw [frameBy, services_eq_map, hnil]
  split
  · rfl
  · rfl

end Base

end OvnOctavia
