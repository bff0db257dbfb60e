import OvnOctavia.Readable
import OvnOctavia.Sync

/-!
The entries of a row, as the provider writes them. A listener names its pools one
key after the other, since a sync puts a pool at the end of its listener's value.
Rows of such entries have a traffic map, and a sync keeps them so.
-/

namespace OvnOctavia

section Chains
variable {x : Str} {pools : List (Str × Bool)}

/-- Pool keys one after the other. -/
def poolChain (pools : List (Str × Bool)) : Str :=
  (pools.map fun p => getPoolKey p.1 p.2).flatten

theorem poolChain_cons (p : Str × Bool) (pools : List (Str × Bool)) :
    poolChain (p :: pools) = getPoolKey p.1 p.2 ++ poolChain pools := rfl

theorem poolChain_append (pools : List (Str × Bool)) (p : Str × Bool) :
    poolChain (pools ++ [p]) = poolChain pools ++ getPoolKey p.1 p.2 := by
  simp [poolChain]

/-- What follows the first letter of a pool key; no further pool key starts in it. -/
def poolKeyTail (id : Str) (up : Bool) : Str :=
  "ool_".toList ++ (id ++ if up then [] else ':' :: disabledResourceSuffix)

theorem getPoolKey_eq_cons (id : Str) (up : Bool) :
    getPoolKey id up = 'p' :: poolKeyTail id up := by
  simp [getPoolKey, poolKeyTail, lbExtIdsPoolPrefix]

theorem notMem_poolKeyTail {id : Str} (hid : IsUuid id) (up : Bool) : 'p' ∉ poolKeyTail id up := by
  have hu : 'p' ∉ id := hid.notMem (by decide)
  have hd : 'p' ∉ disabledResourceSuffix := by decide
  cases up <;> simp [poolKeyTail, hu, hd]

/-- A piece of a chain that is not the searched key stays. -/
theorem replace_poolKey_append {y : Str} {a b : Bool} (hy : IsUuid y) {s : Str}
    (h : ¬ getPoolKey x a <+: getPoolKey y b ++ s) :
    Str.replace (getPoolKey x a) [] (getPoolKey y b ++ s) =
      getPoolKey y b ++ Str.replace (getPoolKey x a) [] s := by
  rw [getPoolKey_eq_cons y b, List.cons_append] at h ⊢
  rw [Str.replace_cons_of_not_prefix h, getPoolKey_eq_cons x a,
    Str.replace_append_of_notMem s (notMem_poolKeyTail hy b)]
  rfl

theorem replace_poolKey_self (x : Str) (a : Bool) (s : Str) :
    Str.replace (getPoolKey x a) [] (getPoolKey x a ++ s) = Str.replace (getPoolKey x a) [] s := by
  rw [getPoolKey_eq_cons x a]
  exact Str.replace_cons_append 'p' (poolKeyTail x a) [] s

/-- A pool key at the start of another one is that of the same pool. -/
theorem eq_of_poolKey_prefix {y : Str} {a b : Bool} {s : Str} (hx : IsUuid x) (hy : IsUuid y)
    (h : getPoolKey x a <+: getPoolKey y b ++ s) : x = y := by
  obtain ⟨t, ht⟩ := h
  simp only [getPoolKey, List.append_assoc, List.append_cancel_left_eq] at ht
  exact (List.append_inj ht (hx.1.trans hy.1.symm)).1

theorem not_disabled_prefix {s : Str} (hs : s = [] ∨ 'p' ∈ s.head?) :
    ¬ getPoolKey x false <+: getPoolKey x true ++ s := by
  rintro ⟨t, ht⟩
  simp only [getPoolKey, List.append_assoc, List.append_cancel_left_eq, Bool.false_eq_true,
    if_false, if_true, List.nil_append, List.cons_append] at ht
  rcases hs with rfl | hs
  · cases ht
  · rw [← ht] at hs
    simp at hs

theorem poolChain_head (pools : List (Str × Bool)) :
    poolChain pools = [] ∨ 'p' ∈ (poolChain pools).head? := by
  cases pools with
  | nil => exact .inl rfl
  | cons p pools =>
      right
      rw [poolChain_cons, getPoolKey_eq_cons]
      rfl

/-- A key taken out of a chain; the key of an enabled pool also occurs in that of the
disabled one. -/
theorem replace_chain {up : Bool} (hx : IsUuid x) (hp : ∀ p ∈ pools, IsUuid p.1)
    (hno : up = true → (x, false) ∉ pools) :
    Str.replace (getPoolKey x up) [] (poolChain pools) =
      poolChain (pools.filter (· ≠ (x, up))) := by
  induction pools with
  | nil => rfl
  | cons p pools ih =>
      rw [List.forall_mem_cons] at hp
      simp only [List.mem_cons, not_or] at hno
      obtain ⟨y, b⟩ := p
      have hrest := ih hp.2 fun hup => (hno hup).2
      by_cases h : (y, b) = (x, up)
      · cases h
        rw [poolChain_cons, replace_poolKey_self, hrest, List.filter_cons_of_neg (by simp)]
      · have hnot : ¬ getPoolKey x up <+: getPoolKey y b ++ poolChain pools := by
          intro hpre
          have hxy := eq_of_poolKey_prefix hx hp.1 hpre
          subst hxy
          cases up with
          | true =>
              cases b with
              | true => exact h rfl
              | false => exact (hno rfl).1 rfl
          | false =>
              cases b with
              | true => exact not_disabled_prefix (poolChain_head pools) hpre
              | false => exact h rfl
        rw [poolChain_cons, replace_poolKey_append hp.1 hnot, hrest, List.filter_cons,
          if_pos (decide_eq_true h), poolChain_cons]

/-- The value of a listener: its port and the pools it names. -/
def IsChainValue (v : Str) : Prop :=
  ∃ port pools, v = makeListenerKeyValue port (poolChain pools) ∧ ∀ p ∈ pools, IsUuid p.1

theorem isChainValue_append {v : Str} (hv : IsChainValue v) (hx : IsUuid x) (up : Bool) :
    IsChainValue (v ++ getPoolKey x up) := by
  obtain ⟨port, pools, rfl, hp⟩ := hv
  refine ⟨port, pools ++ [(x, up)], ?_, fun p hm => ?_⟩
  · rw [makeListenerKeyValue_append, poolChain_append]
  · rcases List.mem_append.mp hm with hm | hm
    · exact hp p hm
    · rw [List.mem_singleton.mp hm]
      exact hx

/-- The keys of one pool taken out of the value of a listener. -/
theorem replace_listenerValue (hx : IsUuid x) (hp : ∀ p ∈ pools, IsUuid p.1) (port : Nat) :
    Str.replace (getPoolKey x true) [] (Str.replace (getPoolKey x false) []
      (makeListenerKeyValue port (poolChain pools))) =
        makeListenerKeyValue port (poolChain (pools.filter (·.1 ≠ x))) := by
  have hport : 'p' ∉ Str.ofNat port ++ [':'] := by
    simpa using Str.notMem_ofNat (by decide : 'p'.isDigit = false) port
  have hskip : ∀ up t, Str.replace (getPoolKey x up) [] (makeListenerKeyValue port t) =
      makeListenerKeyValue port (Str.replace (getPoolKey x up) [] t) := by
    intro up t
    have hmake : ∀ t, makeListenerKeyValue port t = (Str.ofNat port ++ [':']) ++ t := fun t => by
      simp [makeListenerKeyValue]
    rw [hmake, hmake, getPoolKey_eq_cons]
    exact Str.replace_append_of_notMem t hport
  have hfirst : ∀ p ∈ pools.filter (· ≠ (x, false)), IsUuid p.1 :=
    fun p hm => hp p (List.mem_of_mem_filter hm)
  have hdisabled : Str.replace (getPoolKey x false) [] (poolChain pools) =
      poolChain (pools.filter (· ≠ (x, false))) := replace_chain hx hp (by rintro ⟨⟩)
  have hboth : (pools.filter (· ≠ (x, false))).filter (· ≠ (x, true)) =
      pools.filter (·.1 ≠ x) := by
    rw [List.filter_filter]
    refine List.filter_congr fun p _ => ?_
    obtain ⟨y, up⟩ := p
    cases up <;> simp
  rw [hskip, hskip, hdisabled, replace_chain hx hfirst fun _ => by simp, hboth]

/-- A pool that a listener names is found in its value. -/
theorem contains_listenerValue {up : Bool} (hm : (x, up) ∈ pools) (port : Nat) :
    Str.contains x (makeListenerKeyValue port (poolChain pools)) = true := by
  obtain ⟨before, rest, rfl⟩ := List.append_of_mem hm
  rw [Str.contains_iff]
  refine ⟨makeListenerKeyValue port (poolChain before ++ lbExtIdsPoolPrefix),
    (if up then [] else ':' :: disabledResourceSuffix) ++ poolChain rest, ?_⟩
  simp [makeListenerKeyValue, poolChain, getPoolKey]

theorem isChainValue_replace {v : Str} (hv : IsChainValue v) (hx : IsUuid x) :
    IsChainValue (Str.replace (getPoolKey x true) [] (Str.replace (getPoolKey x false) [] v)) := by
  obtain ⟨port, pools, rfl, hp⟩ := hv
  exact ⟨port, _, replace_listenerValue hx hp port, fun p hm => hp p (List.mem_of_mem_filter hm)⟩

theorem isChainValue_default {info : ListenerInfo}
    (h : ∀ id, info.defaultPoolId = some (some id) → id ≠ [] → IsUuid id) :
    IsChainValue (makeListenerKeyValue info.protocolPort (defaultPoolKey info)) := by
  unfold defaultPoolKey
  split
  · next c id hd =>
      refine ⟨info.protocolPort, [(c :: id, true)], by simp [poolChain], fun p hm => ?_⟩
      rw [List.mem_singleton.mp hm]
      exact h _ hd (by simp)
  · exact ⟨_, [], rfl, nofun⟩

end Chains

section Entries
variable {env : Env} {e kv : Dict Str Str} {k v : Str}

/-- The fixed keys whose values are read. -/
def readKeys : List Str :=
  [ovnMemberStatusKey, lbExtIdsVipKey, lbExtIdsAdditVipKey, lbExtIdsVipFipKey,
    lbExtIdsAdditVipFipKey]

/-- A value of one of the fixed keys that are read. An address list of a floating IP may
be empty. -/
structure IsBaseValue (env : Env) (k v : Str) : Prop where
  statuses : k = ovnMemberStatusKey → (Json.loadsTexts v).isSome
  vip : k = lbExtIdsVipKey → (env.ipVersion v).isSome
  vips : k = lbExtIdsAdditVipKey → ∀ a ∈ v.splitOn ',', (env.ipVersion a).isSome
  fip : k = lbExtIdsVipFipKey → v ≠ [] → (env.ipVersion v).isSome
  fips : k = lbExtIdsAdditVipFipKey → v ≠ [] → ∀ a ∈ v.splitOn ',', (env.ipVersion a).isSome

/-- What the provider writes under a key of a row. -/
inductive IsEntry (env : Env) : Str → Str → Prop
  | base {k v : Str} (hk : k ∈ baseKeys) (hv : IsBaseValue env k v) : IsEntry env k v
  | listener {id v : Str} (up : Bool) (hid : IsUuid id) (hv : IsChainValue v) :
      IsEntry env (getListenerKey id up) v
  | pool {id v : Str} (up : Bool) (hid : IsUuid id) (hv : IsPoolValue env v) :
      IsEntry env (getPoolKey id up) v

/-- Keys of which every entry is one of the provider's. -/
def Legible (env : Env) (e : Dict Str Str) : Prop := ∀ k v, e.get? k = some v → IsEntry env k v

namespace IsEntry

/-- Any text may stand under a fixed key that is not read. -/
theorem plain (hk : k ∈ baseKeys) (hread : k ∉ readKeys) (v : Str) : IsEntry env k v := by
  simp only [readKeys, List.mem_cons, List.not_mem_nil, or_false, not_or] at hread
  obtain ⟨hs, hv, hvs, hf, hfs⟩ := hread
  exact .base hk ⟨fun h => absurd h hs, fun h => absurd h hv, fun h => absurd h hvs,
    fun h => absurd h hf, fun h => absurd h hfs⟩

theorem isBaseValue (h : IsEntry env k v) (hk : k ∈ baseKeys) : IsBaseValue env k v := by
  cases h with
  | base _ hv => exact hv
  | listener => exact absurd hk (listenerKey_notMem_base _ _)
  | pool => exact absurd hk (poolKey_notMem_base _ _)

/-- A key that starts like that of a pool has a pool value. -/
theorem isPoolValue (h : IsEntry env k v) (hk : Str.startsWith lbExtIdsPoolPrefix k = true) :
    IsPoolValue env v := by
  cases h with
  | base hb =>
      rw [startsWith_pool_base hb] at hk
      cases hk
  | listener => cases hk
  | pool _ _ hv => exact hv

/-- The value of a listener is replaced by another one. -/
theorem mapListener {id : Str} {up : Bool} {f : Str → Str}
    (h : IsEntry env (getListenerKey id up) v) (hf : ∀ w, IsChainValue w → IsChainValue (f w)) :
    IsEntry env (getListenerKey id up) (f v) := by
  generalize hk : getListenerKey id up = k at h ⊢
  cases h with
  | base hb => exact absurd hb (hk ▸ listenerKey_notMem_base id up)
  | listener b hid hv => exact .listener b hid (hf v hv)
  | pool => exact absurd hk (listenerKey_ne_poolKey _ _ _ _)

end IsEntry

namespace Legible

theorem empty : Legible env ∅ := fun _ _ h => nomatch h

theorem update (he : Legible env e) (hkv : Legible env kv) : Legible env (e.update kv) := by
  intro k v h
  rw [Dict.get?_update, Option.or_eq_some_iff] at h
  rcases h with h | ⟨-, h⟩
  · exact hkv k v h
  · exact he k v h

theorem set (he : Legible env e) (h : IsEntry env k v) : Legible env (e.set k v) := by
  intro j w hw
  rw [Dict.get?_set] at hw
  split at hw
  · next hjk =>
      cases hw
      exact hjk ▸ h
  · exact he j w hw

theorem erase (he : Legible env e) (k : Str) : Legible env (e.erase k) := by
  intro j w hw
  rw [Dict.get?_erase] at hw
  split at hw
  · cases hw
  · exact he j w hw

theorem isPoolValue (he : Legible env e) {id : Str} {up : Bool}
    (h : e.get? (getPoolKey id up) = some v) : IsPoolValue env v :=
  (he _ v h).isPoolValue (startsWith_poolKey id up)

theorem statuses (he : Legible env e) : ∃ d, loadMemberStatuses e = .ok d := by
  rw [loadMemberStatuses]
  cases hv : e.get? ovnMemberStatusKey with
  | none => exact ⟨∅, rfl⟩
  | some v =>
      obtain ⟨d, hd⟩ :=
        Option.isSome_iff_exists.mp (((he _ v hv).isBaseValue (by decide)).statuses rfl)
      exact ⟨d, by simp only [hd]⟩

theorem vips (he : Legible env e) : ∀ a ∈ lbVips e, (env.ipVersion a).isSome := by
  intro a ha
  rcases List.mem_append.mp ha with ha | ha
  · rw [Option.mem_toList] at ha
    exact ((he _ a ha).isBaseValue (by decide)).vip rfl
  · split at ha
    · next v hv => exact ((he _ v hv).isBaseValue (by decide)).vips rfl a ha
    · cases ha

theorem fips (he : Legible env e) : ∀ a ∈ lbFips e, (env.ipVersion a).isSome := by
  intro a ha
  rcases List.mem_append.mp ha with ha | ha
  · split at ha
    · next c v hv =>
        rw [List.mem_singleton.mp ha]
        exact ((he _ _ hv).isBaseValue (by decide)).fip rfl (by simp)
    · cases ha
  · split at ha
    · next c v hv => exact ((he _ _ hv).isBaseValue (by decide)).fips rfl (by simp) a ha
    · cases ha

/-- An enabled listener serves a readable pool, if any. -/
theorem service_ok (he : Legible env e) (off : Str → Bool) {k : Str} (hk : k ∈ e.keys)
    (hs : isServing k = true) :
    ∃ b, backendsOff env off (serviceOf e ((e.get? k).getD [])).2 = .ok b := by
  obtain ⟨v, hv⟩ := get?_of_mem_keys hk
  rw [hv, Option.getD_some]
  have hentry := he k v hv
  cases hentry with
  | base hb =>
      rw [isServing, hasListenerPrefix_base hb] at hs
      cases hs
  | pool up hid =>
      rw [isServing, hasListenerPrefix_poolKey hid] at hs
      cases hs
  | listener up hid hchain =>
      obtain ⟨port, pools, rfl, -⟩ := hchain
      rw [(serviceOf_make e port _).1, target]
      split
      · exact ⟨_, rfl⟩
      · next hor =>
          cases ht : e.get? (poolChain pools) with
          | none => exact ⟨_, rfl⟩
          | some w =>
              have hstart : Str.startsWith lbExtIdsPoolPrefix (poolChain pools) = true := by
                cases pools with
                | nil => exact absurd (.inl rfl) hor
                | cons p pools =>
                    rw [poolChain_cons, getPoolKey, List.append_assoc, List.append_assoc]
                    exact Str.startsWith_append _ _
              obtain ⟨ds, rfl, hds⟩ := (he _ w ht).isPoolValue hstart
              exact backendsOff_ok hds off

/-- Rows of such entries have a traffic map. -/
theorem frame_ok {e' : Dict Str Str} (he : Legible env e) (he' : Legible env e') :
    ∃ vips, frameVipIps env e e' = .ok vips := by
  obtain ⟨statuses, hs⟩ := he.statuses
  rw [frameVipIps_eq_off env hs]
  refine frameBy_ok he'.vips he'.fips fun s hm => ?_
  rw [services_eq_map] at hm
  obtain ⟨k, hk, rfl⟩ := List.mem_map.mp hm
  rw [List.mem_filter] at hk
  exact he'.service_ok _ hk.1 hk.2

theorem setPeripheral (he : Legible env e) (hk : k ∈ peripheralKeys) (v : Str) :
    Legible env (e.set k v) := by
  have hbase : ∀ k ∈ peripheralKeys, k ∈ baseKeys ∧ k ∉ readKeys := by decide
  exact he.set (.plain (hbase k hk).1 (hbase k hk).2 v)

theorem withStatuses (he : Legible env e) (d : Dict Str Str) : Legible env (withStatuses e d) := by
  rw [OvnOctavia.withStatuses]
  split
  · exact he.erase _
  · refine he.set (.base (by decide) ⟨fun _ => ?_, ?_, ?_, ?_, ?_⟩)
    · rw [Json.loadsTexts_dumpsTexts]
      rfl
    all_goals exact fun h => absurd h (by decide)

/-- The value that puts a pool at the end of its listener's, and the pool's key. -/
theorem prepareExternalIds (he : Legible env e) {info : PoolInfo} (hid : IsUuid info.id)
    (up : Bool) : Legible env (prepareExternalIds info up e) := by
  have hempty : IsPoolValue env [] := ⟨[], rfl, nofun⟩
  have hpool : Legible env (e.set (getPoolKey info.id up) []) := he.set (.pool up hid hempty)
  unfold OvnOctavia.prepareExternalIds
  dsimp only
  split
  · exact hpool
  · next listenerId _ =>
      split
      · exact hpool
      · next value hvalue =>
          refine hpool.set ((he _ _ hvalue).mapListener
            (f := fun w => (if Str.contains info.id w then
                Str.replace (getPoolKey info.id true) []
                  (Str.replace (getPoolKey info.id false) [] w)
              else w) ++ getPoolKey info.id up) fun w hw => isChainValue_append ?_ hid up)
          split
          · exact isChainValue_replace hw hid
          · exact hw

end Legible

end Entries

end OvnOctavia
