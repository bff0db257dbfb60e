import OvnOctavia.Library.Overlay
import OvnOctavia.KeptRuns

/-!
The traffic map in its own terms: an entry for every address of the load balancer and
every enabled listener with an enabled pool that has members of the address's version
to serve, and no other. It does not depend on the order of the keys.
-/

namespace OvnOctavia

/-- An address as the key of a traffic map shows it. -/
def shown : IpVersion → Str → Str
  | .v4, a => a
  | .v6, a => bracket a

def Backends.of (b : Backends) : IpVersion → List Str
  | .v4 => b.v4
  | .v6 => b.v6

/-- The members of one version that take traffic, in the order of the pool. -/
def takers (env : Env) (off : Str → Bool) (version : IpVersion) (ds : List MemberData) :
    List MemberData :=
  ds.filter fun d => !off d.id && decide (env.ipVersion d.ip = some version)

/-- The entries under the key of one listener: the listener names an enabled pool with
members to serve. -/
inductive CarriedBy (env : Env) (off : Str → Bool) (e : Dict Str Str) (key : Str) :
    Str → Str → Prop
  | entry {x a : Str} {n : Nat} {ds : List MemberData} {version : IpVersion}
      (hlistener : e.get? key = some (makeListenerKeyValue n (getPoolKey x true)))
      (hx : IsUuid x) (hpool : e.get? (getPoolKey x true) = some (poolValue ds))
      (hds : ∀ d ∈ ds, d.WellFormed env) (hne : takers env off version ds ≠ [])
      (ha : a ∈ lbVips e ∨ version = .v4 ∧ a ∈ lbFips e)
      (hversion : env.ipVersion a = some version) :
      CarriedBy env off e key (addressPort (shown version a) (Str.ofNat n))
        (Str.join ',' ((takers env off version ds).map (backendText env)))

/-- The entries of the traffic map: none while the load balancer is disabled, else those
of the enabled listeners. -/
def Carried (env : Env) (off : Str → Bool) (e : Dict Str Str) (k v : Str) : Prop :=
  e.get? enabledKey ≠ some (strBool false) ∧
    ∃ id, IsUuid id ∧ CarriedBy env off e (getListenerKey id true) k v

/-- Keys whose enabled listeners, enabled pools and addresses can be read, the enabled
listeners on ports of their own. -/
structure Framed (env : Env) (e : Dict Str Str) : Prop where
  listenerKey : ∀ k ∈ e.keys, hasListenerPrefix k = true →
    ∃ id up, IsUuid id ∧ k = getListenerKey id up
  listener : ∀ id v, IsUuid id → e.get? (getListenerKey id true) = some v → IsListenerValue v
  poolKey : ∀ k ∈ e.keys, lbExtIdsPoolPrefix <+: k → ∃ id up, IsUuid id ∧ k = getPoolKey id up
  pool : ∀ id v, IsUuid id → e.get? (getPoolKey id true) = some v → IsPoolValue env v
  addresses : ∀ a ∈ lbVips e ++ lbFips e, (env.ipVersion a).isSome ∧ '[' ∉ a
  ports : ∀ id id' n t t', IsUuid id → IsUuid id' →
    e.get? (getListenerKey id true) = some (makeListenerKeyValue n t) →
    e.get? (getListenerKey id' true) = some (makeListenerKeyValue n t') → id = id'

section Texts

theorem addressPort_inj {s s' port port' : Str} (hp : ':' ∉ port) (hp' : ':' ∉ port')
    (h : addressPort s port = addressPort s' port') : s = s' ∧ port = port' := by
  have hcut := Str.rsplit_append s port hp
  rw [addressPort] at h
  rw [h, addressPort, Str.rsplit_append s' port' hp', Option.some.injEq, Prod.mk.injEq] at hcut
  exact ⟨hcut.1.symm, hcut.2.symm⟩

theorem shown_inj {v v' : IpVersion} {a a' : Str} (ha : '[' ∉ a) (ha' : '[' ∉ a')
    (h : shown v a = shown v' a') : v = v' ∧ a = a' := by
  cases v <;> cases v' <;> simp only [shown, bracket] at h
  · exact ⟨rfl, h⟩
  · exact absurd (h ▸ List.mem_cons_self ..) ha
  · exact absurd (h ▸ List.mem_cons_self ..) ha'
  · rw [List.cons.injEq] at h
    exact ⟨rfl, List.append_cancel_right h.2⟩

end Texts

section Entries
variable {env : Env} {b : Backends} {port : Str} {acc d : Dict Str Str}

/-- The entries of the addresses for the backends of one listener. -/
def Entry (env : Env) (b : Backends) (port : Str) (addresses : List (Str × Bool)) (k v : Str) :
    Prop :=
  ∃ a isFip version, (a, isFip) ∈ addresses ∧ (isFip = true → version = .v4) ∧
    env.ipVersion a = some version ∧ b.of version ≠ [] ∧
      k = addressPort (shown version a) port ∧ v = Str.join ',' (b.of version)

theorem version_eq_ok {a : Str} {v : IpVersion} (h : env.version a = .ok v) :
    env.ipVersion a = some v := by
  rw [Env.version] at h
  cases hv : env.ipVersion a with
  | none => rw [hv] at h; cases h
  | some w => rw [hv] at h; cases h; rfl

theorem overlays_addEntry {address key : Str} {version : IpVersion} {ips : List Str}
    (h : addEntry env address key port version ips acc = .ok d) :
    Dict.Overlays (fun k v => ips ≠ [] ∧ env.ipVersion address = some version ∧
      k = addressPort key port ∧ v = Str.join ',' ips) acc d := by
  unfold addEntry at h
  split at h
  · next hips =>
      cases h
      exact (Dict.overlays_refl acc).congr fun k v => by simp [hips]
  · next hips =>
      obtain ⟨w, hw, hd⟩ := Except.map_eq_ok.mp h
      have hversion := version_eq_ok hw
      split at hd
      · next he =>
          subst he hd
          exact (Dict.overlays_set acc _ _).congr fun k v => by simp [hips, hversion]
      · next hne =>
          subst hd
          exact (Dict.overlays_refl acc).congr fun k v => by simp [hversion, hne]

theorem overlays_addVip {vip : Str} (h : addVip env b port acc vip = .ok d) :
    Dict.Overlays (Entry env b port [(vip, false)]) acc d := by
  obtain ⟨d₁, h₁, h₂⟩ := Except.bind_eq_ok.mp (h : addEntry env vip vip port .v4 b.v4 acc >>=
    addEntry env vip (bracket vip) port .v6 b.v6 = .ok d)
  refine ((overlays_addEntry h₁).trans (overlays_addEntry h₂) ?_).congr fun k v => ?_
  · rintro k v w ⟨-, hv, -⟩ ⟨-, hw, -⟩
    rw [hv] at hw
    cases hw
  · constructor
    · rintro (⟨hne, hv, rfl, rfl⟩ | ⟨hne, hv, rfl, rfl⟩)
      · exact ⟨vip, false, .v4, List.mem_singleton_self _, nofun, hv, hne, rfl, rfl⟩
      · exact ⟨vip, false, .v6, List.mem_singleton_self _, nofun, hv, hne, rfl, rfl⟩
    · rintro ⟨a, isFip, version, hm, -, hv, hne, rfl, rfl⟩
      cases List.mem_singleton.mp hm
      cases version with
      | v4 => exact .inl ⟨hne, hv, rfl, rfl⟩
      | v6 => exact .inr ⟨hne, hv, rfl, rfl⟩

theorem overlays_addFip {fip : Str} (h : addFip env b port acc fip = .ok d) :
    Dict.Overlays (Entry env b port [(fip, true)]) acc d := by
  refine (overlays_addEntry h).congr fun k v => ?_
  constructor
  · rintro ⟨hne, hv, rfl, rfl⟩
    exact ⟨fip, true, .v4, List.mem_singleton_self _, fun _ => rfl, hv, hne, rfl, rfl⟩
  · rintro ⟨a, isFip, version, hm, hfip, hv, hne, rfl, rfl⟩
    cases List.mem_singleton.mp hm
    cases hfip rfl
    exact ⟨hne, hv, rfl, rfl⟩

/-- Two entries of one listener under one key are the same. -/
theorem Entry.agree {addresses addresses' : List (Str × Bool)} (hport : ':' ∉ port)
    (hb : ∀ a ∈ addresses, '[' ∉ a.1) (hb' : ∀ a ∈ addresses', '[' ∉ a.1) {k v w : Str}
    (hv : Entry env b port addresses k v) (hw : Entry env b port addresses' k w) : v = w := by
  obtain ⟨a, f, version, ha, -, -, -, rfl, rfl⟩ := hv
  obtain ⟨a', f', version', ha', -, -, -, hk, rfl⟩ := hw
  obtain ⟨hs, -⟩ := addressPort_inj hport hport hk
  rw [(shown_inj (hb _ ha) (hb' _ ha') hs).1]

theorem overlays_serveBackends {vips fips : List Str} (hport : ':' ∉ port)
    (hb : ∀ a ∈ vips ++ fips, '[' ∉ a) (h : serveBackends env vips fips port acc b = .ok d) :
    Dict.Overlays (Entry env b port (vips.map (·, false) ++ fips.map (·, true))) acc d := by
  have hvips : ∀ a ∈ vips, '[' ∉ a := fun a ha => hb a (List.mem_append_left _ ha)
  have hfips : ∀ a ∈ fips, '[' ∉ a := fun a ha => hb a (List.mem_append_right _ ha)
  have hone : ∀ {a f}, '[' ∉ a → ∀ p ∈ [((a, f) : Str × Bool)], '[' ∉ p.1 := by
    intro a f ha p hp
    rw [List.mem_singleton.mp hp]
    exact ha
  obtain ⟨d₁, h₁, h₂⟩ := Except.bind_eq_ok.mp (h : vips.foldlM (addVip env b port) acc >>=
    fips.foldlM (addFip env b port) = .ok d)
  have hv := Dict.overlays_foldlM (f := addVip env b port)
    (R := fun a => Entry env b port [(a, false)]) (fun a _ _ _ => overlays_addVip)
    (fun a ha a' ha' _ _ _ hx hy =>
      Entry.agree hport (hone (hvips a ha)) (hone (hvips a' ha')) hx hy)
    h₁
  have hf := Dict.overlays_foldlM (f := addFip env b port)
    (R := fun a => Entry env b port [(a, true)]) (fun a _ _ _ => overlays_addFip)
    (fun a ha a' ha' _ _ _ hx hy =>
      Entry.agree hport (hone (hfips a ha)) (hone (hfips a' ha')) hx hy)
    h₂
  refine (hv.trans hf ?_).congr fun k v => ?_
  · rintro k v w ⟨a, ha, hx⟩ ⟨a', ha', hy⟩
    exact Entry.agree hport (hone (hvips a ha)) (hone (hfips a' ha')) hx hy
  · constructor
    · rintro (⟨a, ha, x, f, version, hm, hfip, hrest⟩ | ⟨a, ha, x, f, version, hm, hfip, hrest⟩)
      · cases List.mem_singleton.mp hm
        exact ⟨a, false, version, List.mem_append_left _ (List.mem_map_of_mem ha), hfip, hrest⟩
      · cases List.mem_singleton.mp hm
        exact ⟨a, true, version, List.mem_append_right _ (List.mem_map_of_mem ha), hfip, hrest⟩
    · rintro ⟨a, f, version, hm, hfip, hrest⟩
      rcases List.mem_append.mp hm with hm | hm
      · obtain ⟨x, hx, he⟩ := List.mem_map.mp hm
        cases he
        exact .inl ⟨a, hx, a, false, version, List.mem_singleton_self _, hfip, hrest⟩
      · obtain ⟨x, hx, he⟩ := List.mem_map.mp hm
        cases he
        exact .inr ⟨a, hx, a, true, version, List.mem_singleton_self _, hfip, hrest⟩

end Entries

namespace Framed
variable {env : Env} {e : Dict Str Str} {off : Str → Bool}

/-- The keys that serve are those of enabled listeners. -/
theorem of_serving (hf : Framed env e) {k : Str} (hk : k ∈ e.keys) (hs : isServing k = true) :
    ∃ id n t, IsUuid id ∧ k = getListenerKey id true ∧
      e.get? k = some (makeListenerKeyValue n t) ∧ (t = [] ∨ lbExtIdsPoolPrefix <+: t) := by
  have hprefix : hasListenerPrefix k = true := by
    rw [isServing, Bool.and_eq_true] at hs
    exact hs.1
  obtain ⟨id, up, hid, rfl⟩ := hf.listenerKey k hk hprefix
  rw [isServing_listenerKey hid] at hs
  subst hs
  obtain ⟨v, hv⟩ := get?_of_mem_keys hk
  obtain ⟨n, t, rfl, ht⟩ := hf.listener id v hid hv
  exact ⟨id, n, t, hid, rfl, hv, ht⟩

/-- What a listener serves: no members, or those of an enabled pool. -/
theorem target_cases (hf : Framed env e) {t : Str} (ht : t = [] ∨ lbExtIdsPoolPrefix <+: t) :
    target e t = [] ∨ ∃ x ds, IsUuid x ∧ t = getPoolKey x true ∧
      e.get? t = some (poolValue ds) ∧ (∀ d ∈ ds, d.WellFormed env) ∧
        target e t = poolValue ds := by
  by_cases hor : t = [] ∨ ':' ∈ t
  · exact .inl (if_pos hor)
  · rw [target, if_neg hor]
    rw [not_or] at hor
    cases hg : e.get? t with
    | none => exact .inl rfl
    | some v =>
        obtain ⟨x, up, hx, rfl⟩ := hf.poolKey t (mem_keys_of_get? hg) (ht.resolve_left hor.1)
        cases up with
        | true =>
            obtain ⟨ds, rfl, hds⟩ := hf.pool x v hx hg
            exact .inr ⟨x, ds, hx, rfl, rfl, hds, rfl⟩
        | false => exact absurd (by simp [getPoolKey]) hor.2

theorem target_ok (hf : Framed env e) {t : Str} (ht : t = [] ∨ lbExtIdsPoolPrefix <+: t)
    (off : Str → Bool) : ∃ b, backendsOff env off (target e t) = .ok b := by
  rcases hf.target_cases ht with hn | ⟨x, ds, -, -, -, hds, he⟩
  · exact ⟨_, by rw [hn]; rfl⟩
  · rw [he]
    exact backendsOff_ok hds off

/-- The backends of a pool value by version are those of its takers. -/
theorem backends_eq {ds : List MemberData} (hds : ∀ d ∈ ds, d.WellFormed env) {b : Backends}
    (hb : backendsOff env off (poolValue ds) = .ok b) (version : IpVersion) :
    b.of version = (takers env off version ds).map (backendText env) := by
  rw [backendsOff_poolValue hds,
    activeBackends_eq fun d hd => (hds d (List.mem_of_mem_filter hd)).address] at hb
  cases hb
  cases version with
  | v4 =>
      simp only [Backends.of, takers, List.filter_filter]
      congr 1
      refine List.filter_congr fun d hd => ?_
      obtain ⟨w, hw⟩ := Option.isSome_iff_exists.mp (hds d hd).address
      rw [hw]
      cases w <;> cases off d.id <;> rfl
  | v6 =>
      simp only [Backends.of, takers, List.filter_filter]
      congr 1
      refine List.filter_congr fun d _ => ?_
      rw [Bool.and_comm]

theorem colon_notMem_port (hf : Framed env e) {K : Str} (hK : K ∈ e.keys)
    (hs : isServing K = true) : ':' ∉ (serviceOf e ((e.get? K).getD [])).1 := by
  obtain ⟨id, n, t, -, -, hg, -⟩ := hf.of_serving hK hs
  rw [hg, Option.getD_some, serviceOf]
  by_cases hc : ':' ∈ t
  · simp [extractListenerKeyValue_of_colon hc]
  · simp only [extractListenerKeyValue_make hc]
    split
    · exact List.not_mem_nil
    · exact colon_notMem_ofNat n

/-- The entries of one listener key. -/
def Serves (env : Env) (off : Str → Bool) (e : Dict Str Str) (K k v : Str) : Prop :=
  ∃ b, backendsOff env off (serviceOf e ((e.get? K).getD [])).2 = .ok b ∧
    Entry env b (serviceOf e ((e.get? K).getD [])).1
      ((lbVips e).map (·, false) ++ (lbFips e).map (·, true)) k v

theorem serves_iff (hf : Framed env e) {K : Str} (hK : K ∈ e.keys) (hs : isServing K = true)
    {k v : Str} : Serves env off e K k v ↔ CarriedBy env off e K k v := by
  obtain ⟨id, n, t, hid, rfl, hg, ht⟩ := hf.of_serving hK hs
  rw [Serves, hg, Option.getD_some]
  obtain ⟨hvalue, hservice⟩ := serviceOf_make e n t
  constructor
  · rintro ⟨b, hb, a, isFip, version, hm, hfip, hver, hne, rfl, rfl⟩
    rw [hvalue] at hb
    rcases hf.target_cases ht with hn | ⟨x, ds, hx, rfl, hpool, hds, he⟩
    · -- without members there is nothing to serve
      rw [hn, backendsOff_nil] at hb
      cases hb
      cases version <;> exact absurd rfl hne
    · rw [he] at hb hservice
      have hof := backends_eq hds hb version
      rw [hof] at hne ⊢
      have hds' : poolValue ds ≠ [] := by
        intro hnil
        rw [poolValue_eq_nil_iff] at hnil
        subst hnil
        exact hne rfl
      rw [hservice.resolve_left hds']
      refine .entry hg hx hpool hds (fun hn => hne (List.map_eq_nil_iff.mpr hn)) ?_ hver
      rcases List.mem_append.mp hm with hm | hm
      · obtain ⟨y, hy, he⟩ := List.mem_map.mp hm
        cases he
        exact .inl hy
      · obtain ⟨y, hy, he⟩ := List.mem_map.mp hm
        cases he
        exact .inr ⟨hfip rfl, hy⟩
  · intro h
    cases h with
    | @entry x a m ds version hlistener hx hpool hds hne ha hver =>
        have htarget : target e (getPoolKey x true) = poolValue ds := by
          rw [target_poolKey hx, hpool, Option.getD_some]
        have hds' : poolValue ds ≠ [] := by
          intro hnil
          rw [poolValue_eq_nil_iff] at hnil
          subst hnil
          exact hne rfl
        rw [Option.some.inj (hg.symm.trans hlistener)]
        have hservice' := (serviceOf_make e m (getPoolKey x true)).2
        rw [htarget] at hservice'
        obtain ⟨b, hb⟩ := backendsOff_ok hds off
        have hof := backends_eq hds hb version
        rw [hservice'.resolve_left hds']
        refine ⟨b, hb, ?_⟩
        rw [← hof]
        have hne' : b.of version ≠ [] := by
          rw [hof]
          exact fun hn => hne (List.map_eq_nil_iff.mp hn)
        rcases ha with ha | ⟨hv4, ha⟩
        · exact ⟨a, false, version, List.mem_append_left _ (List.mem_map_of_mem ha), nofun, hver,
            hne', rfl, rfl⟩
        · exact ⟨a, true, version, List.mem_append_right _ (List.mem_map_of_mem ha),
            fun _ => hv4, hver, hne', rfl, rfl⟩

/-- An entry under the key of a listener and an address is of that listener's pool. -/
theorem value_eq (hf : Framed env e) {id id' x a w : Str} {n : Nat} {ds : List MemberData}
    {version : IpVersion} (hid : IsUuid id) (hid' : IsUuid id')
    (hl : e.get? (getListenerKey id true) = some (makeListenerKeyValue n (getPoolKey x true)))
    (hx : IsUuid x) (hp : e.get? (getPoolKey x true) = some (poolValue ds))
    (hds : ∀ d ∈ ds, d.WellFormed env) (ha : '[' ∉ a)
    (hw : CarriedBy env off e (getListenerKey id' true)
      (addressPort (shown version a) (Str.ofNat n)) w) :
    takers env off version ds ≠ [] ∧
      w = Str.join ',' ((takers env off version ds).map (backendText env)) := by
  generalize hkey : addressPort (shown version a) (Str.ofNat n) = k at hw
  cases hw with
  | @entry x' a' n' ds' version' hl' hx' hp' hds' hne' ha' hver' =>
      have hb : '[' ∉ a' := (hf.addresses a' (List.mem_append.mpr (ha'.imp_right And.right))).2
      obtain ⟨hshown, hport⟩ := addressPort_inj (colon_notMem_ofNat n) (colon_notMem_ofNat n') hkey
      obtain ⟨rfl, rfl⟩ := shown_inj ha hb hshown
      obtain rfl := Str.ofNat_inj hport
      obtain rfl := hf.ports id id' n _ _ hid hid' hl hl'
      rw [hl, Option.some.injEq] at hl'
      have hpool := (makeListenerKeyValue_inj hl').2
      obtain rfl := (getPoolKey_inj hx hx' hpool).1
      rw [hp, Option.some.injEq] at hp'
      rw [poolValue_inj hds hds' hp']
      exact ⟨hne', rfl⟩

/-- Entries under one key of the traffic map agree, whichever listeners they are of. -/
theorem agree (hf : Framed env e) {K K' : Str} (hK : K ∈ e.keys) (hs : isServing K = true)
    (hK' : K' ∈ e.keys) (hs' : isServing K' = true) {k v w : Str}
    (hv : CarriedBy env off e K k v) (hw : CarriedBy env off e K' k w) : v = w := by
  obtain ⟨id, -, -, hid, rfl, -, -⟩ := hf.of_serving hK hs
  obtain ⟨id', -, -, hid', rfl, -, -⟩ := hf.of_serving hK' hs'
  cases hv with
  | @entry x a n ds version hl hx hp hds hne ha hver =>
      have hb : '[' ∉ a := (hf.addresses a (List.mem_append.mpr (ha.imp_right And.right))).2
      exact (hf.value_eq hid hid' hl hx hp hds hb hw).2.symm

/-- The traffic map exists and has exactly the entries it is to have. -/
theorem frame_iff (hf : Framed env e) (off : Str → Bool) :
    ∃ vips, frameBy env (backendsOff env off) e = .ok vips ∧
      ∀ k v, vips.get? k = some v ↔ Carried env off e k v := by
  by_cases hup : e.get? enabledKey = some (strBool false)
  · refine ⟨∅, by rw [frameBy, if_pos hup], fun k v => ?_⟩
    rw [Dict.get?_empty]
    exact ⟨by rintro ⟨⟩, fun h => absurd hup h.1⟩
  · have hservices : services e = (e.keys.filter isServing).map fun k =>
        serviceOf e ((e.get? k).getD []) := services_eq_map e
    obtain ⟨vips, hok⟩ : ∃ vips, frameBy env (backendsOff env off) e = .ok vips := by
      refine frameBy_ok (fun a ha => ?_) (fun a ha => ?_) fun s hs => ?_
      · exact (hf.addresses a (List.mem_append_left _ ha)).1
      · exact (hf.addresses a (List.mem_append_right _ ha)).1
      · rw [hservices] at hs
        obtain ⟨K, hK, rfl⟩ := List.mem_map.mp hs
        rw [List.mem_filter] at hK
        obtain ⟨id, n, t, -, -, hg, ht⟩ := hf.of_serving hK.1 hK.2
        rw [hg, Option.getD_some, (serviceOf_make e n t).1]
        exact hf.target_ok ht off
    refine ⟨vips, hok, fun k v => ?_⟩
    rw [frameBy, if_neg hup, hservices, List.foldlM_map] at hok
    have hover := Dict.overlays_foldlM (R := CarriedBy env off e) (fun K hK acc d hd => ?_)
      (fun K hK K' hK' k v w hv hw => ?_) hok
    · rw [hover.of_empty k v]
      constructor
      · rintro ⟨K, hK, hc⟩
        rw [List.mem_filter] at hK
        obtain ⟨id, -, -, hid, rfl, -, -⟩ := hf.of_serving hK.1 hK.2
        exact ⟨hup, id, hid, hc⟩
      · rintro ⟨-, id, hid, hc⟩
        refine ⟨getListenerKey id true, List.mem_filter.mpr ⟨?_, ?_⟩, hc⟩
        · cases hc with
          | entry hl => exact mem_keys_of_get? hl
        · exact isServing_listenerKey hid true
    · rw [List.mem_filter] at hK
      have hiff : ∀ k v, Serves env off e K k v ↔ CarriedBy env off e K k v :=
        fun k v => hf.serves_iff hK.1 hK.2
      obtain ⟨b, hb, hd⟩ := Except.bind_eq_ok.mp
        (hd : (backendsOff env off (serviceOf e ((e.get? K).getD [])).2 >>= serveBackends env
          (lbVips e) (lbFips e) (serviceOf e ((e.get? K).getD [])).1 acc) = .ok d)
      refine (overlays_serveBackends (hf.colon_notMem_port hK.1 hK.2)
        (fun a ha => (hf.addresses a ha).2) hd).congr fun k v => ?_
      rw [← hiff, Serves, hb]
      simp
    · rw [List.mem_filter] at hK hK'
      exact hf.agree hK.1 hK.2 hK'.1 hK'.2 hv hw

end Framed

section Order
variable {env : Env} {off : Str → Bool} {e e' : Dict Str Str} {k v : Str}

theorem get?_of_perm (h : e'.items.Perm e.items) (k : Str) : e'.get? k = e.get? k := by
  ext v
  rw [Dict.get?_eq_some_iff, Dict.get?_eq_some_iff, h.mem_iff]

/-- Only the status map is not part of what is framed. -/
theorem Framed.congr (hf : Framed env e)
    (he : ∀ k, k ≠ ovnMemberStatusKey → e'.get? k = e.get? k) : Framed env e' := by
  have hkeys : ∀ k, k ≠ ovnMemberStatusKey → k ∈ e'.keys → k ∈ e.keys := by
    intro k hne hk
    obtain ⟨v, hv⟩ := get?_of_mem_keys hk
    exact mem_keys_of_get? ((he k hne).symm.trans hv)
  have hlistener := fun id up => he _ (Readable.withStatuses_ne (listenerKey_notMem_base id up))
  have hpool := fun id up => he _ (Readable.withStatuses_ne (poolKey_notMem_base id up))
  refine ⟨fun k hk hp => ?_, fun id v hid hv => ?_, fun k hk hp => ?_, fun id v hid hv => ?_,
    fun a ha => ?_, fun id id' n t t' hid hid' hl hl' => ?_⟩
  · refine hf.listenerKey k (hkeys k (fun h => ?_) hk) hp
    rw [h] at hp
    exact absurd hp (by decide)
  · exact hf.listener id v hid (hlistener id true ▸ hv)
  · refine hf.poolKey k (hkeys k (fun h => ?_) hk) hp
    rw [h] at hp
    exact absurd hp (by decide)
  · exact hf.pool id v hid (hpool id true ▸ hv)
  · simp only [lbVips, lbFips, he lbExtIdsVipKey (by decide), he lbExtIdsAdditVipKey (by decide),
      he lbExtIdsVipFipKey (by decide), he lbExtIdsAdditVipFipKey (by decide)] at ha
    exact hf.addresses a ha
  · exact hf.ports id id' n t t' hid hid' (hlistener id true ▸ hl) (hlistener id' true ▸ hl')

theorem carried_congr (he : ∀ k, k ≠ ovnMemberStatusKey → e'.get? k = e.get? k) :
    Carried env off e' k v ↔ Carried env off e k v := by
  have hone : ∀ {e e' : Dict Str Str}, (∀ k, k ≠ ovnMemberStatusKey → e'.get? k = e.get? k) →
      Carried env off e' k v → Carried env off e k v := by
    rintro e e' he ⟨hup, id, hid, hc⟩
    have hlistener := he _ (Readable.withStatuses_ne (listenerKey_notMem_base id true))
    refine ⟨he enabledKey (by decide) ▸ hup, id, hid, ?_⟩
    cases hc with
    | @entry x a n ds version hl hx hp hds hne ha hver =>
        have hpool := he _ (Readable.withStatuses_ne (poolKey_notMem_base x true))
        simp only [lbVips, lbFips, he lbExtIdsVipKey (by decide),
          he lbExtIdsAdditVipKey (by decide),
          he lbExtIdsVipFipKey (by decide), he lbExtIdsAdditVipFipKey (by decide)] at ha
        exact .entry (hlistener ▸ hl) hx (hpool ▸ hp) hds hne ha hver
  exact ⟨hone he, hone fun k hk => (he k hk).symm⟩

/-- The traffic map of readable keys has the entries it is to have and no other, and the
keys in another order have the same map. -/
theorem frameVipIps_exact {row statuses : Dict Str Str} (hf : Framed env e)
    (hst : loadMemberStatuses row = .ok statuses) :
    ∃ vips, frameVipIps env row e = .ok vips ∧
      (∀ k v, vips.get? k = some v ↔ Carried env (isOffline statuses) e k v) ∧
      ∀ e' : Dict Str Str, e'.items.Perm e.items → ∃ vips',
        frameVipIps env row e' = .ok vips' ∧ ∀ k, vips'.get? k = vips.get? k := by
  obtain ⟨vips, hok, hiff⟩ := hf.frame_iff (isOffline statuses)
  refine ⟨vips, (frameVipIps_eq_off env hst e).trans hok, hiff, fun e' hp => ?_⟩
  have he : ∀ k, k ≠ ovnMemberStatusKey → e'.get? k = e.get? k := fun k _ => get?_of_perm hp k
  obtain ⟨vips', hok', hiff'⟩ := (hf.congr he).frame_iff (isOffline statuses)
  refine ⟨vips', (frameVipIps_eq_off env hst e').trans hok', fun k => ?_⟩
  ext v
  rw [hiff', hiff, carried_congr he]

/-- The rows of the provider hold such keys. -/
theorem Readable.framed (hr : Readable env e) (hb : ∀ a ∈ lbVips e ++ lbFips e, '[' ∉ a)
    (hports : ∀ id id' n t t', IsUuid id → IsUuid id' →
      e.get? (getListenerKey id true) = some (makeListenerKeyValue n t) →
      e.get? (getListenerKey id' true) = some (makeListenerKeyValue n t') → id = id') :
    Framed env e where
  listenerKey := by
    intro k hk hprefix
    rcases hr.key k hk with hbase | h | ⟨id, up, hid, rfl⟩
    · rw [hasListenerPrefix_base hbase] at hprefix
      cases hprefix
    · exact h
    · rw [hasListenerPrefix_poolKey hid] at hprefix
      cases hprefix
  listener := fun id v hid hv => hr.listener id true v hid hv
  poolKey := by
    intro k hk hprefix
    rw [← Str.startsWith_iff] at hprefix
    rcases hr.key k hk with hbase | ⟨id, up, hid, rfl⟩ | h
    · rw [startsWith_pool_base hbase] at hprefix
      cases hprefix
    · cases hprefix
    · exact h
  pool := fun id v hid hv => hr.pool id true v hid hv
  addresses := by
    intro a ha
    refine ⟨?_, hb a ha⟩
    rcases List.mem_append.mp ha with ha | ha
    · exact hr.vips a ha
    · exact hr.fips a ha
  ports := hports

end Order

section Example

/-- A listener on port 80 with a pool of one member. -/
def exampleServingKeys : Dict Str Str :=
  ((addVipKeys exampleLb (baseExternalIds "10.0.0.2".toList "port".toList true)).set
    (getListenerKey (exampleId 'b') true)
      (makeListenerKeyValue 80 (getPoolKey (exampleId 'c') true))).set
    (getPoolKey (exampleId 'c') true) (poolValue [exampleServer])

theorem readable_exampleServingKeys : Readable exampleEnv exampleServingKeys := by
  have hbase : Readable exampleEnv
      (addVipKeys exampleLb (baseExternalIds "10.0.0.2".toList "port".toList true)) :=
    .addVipKeys ⟨by rintro a ⟨⟩; decide, nofun, nofun, nofun⟩ rfl
  refine (hbase.set_listener (isUuid_exampleId (by decide)) true
    (isListenerValue_make 80 (.inr (poolPrefix_poolKey _ _)))).set_pool
      (isUuid_exampleId (by decide)) (by decide +kernel) ⟨_, rfl, fun d hd => ?_⟩
  rw [List.mem_singleton.mp hd]
  exact wellFormed_exampleServer

theorem framed_exampleServingKeys : Framed exampleEnv exampleServingKeys := by
  refine readable_exampleServingKeys.framed (by decide +kernel) fun id id' n t t' hid hid' hl hl' =>
    ?_
  have hsole : ∀ x v, exampleServingKeys.get? (getListenerKey x true) = some v → IsUuid x →
      x = exampleId 'b' := by
    intro x v hx hxid
    rw [exampleServingKeys, Dict.get?_set_of_ne _ _ (listenerKey_ne_poolKey x _ true true),
      Dict.get?_set] at hx
    split at hx
    · next he => exact (getListenerKey_inj hxid (isUuid_exampleId (by decide)) he).1
    · exact absurd (Table.addVipKeys_base _ (Table.baseExternalIds_base _ _ _) _
        (mem_keys_of_get? hx)) (listenerKey_notMem_base x true)
  rw [hsole id _ hl hid, hsole id' _ hl' hid']

theorem frameVipIps_exact_example :
    ∃ vips, frameVipIps exampleEnv exampleServingKeys exampleServingKeys = .ok vips ∧
      (∀ k v, vips.get? k = some v ↔ Carried exampleEnv (isOffline ∅) exampleServingKeys k v) ∧
      ∀ e' : Dict Str Str, e'.items.Perm exampleServingKeys.items → ∃ vips',
        frameVipIps exampleEnv exampleServingKeys e' = .ok vips' ∧
          ∀ k, vips'.get? k = vips.get? k :=
  frameVipIps_exact framed_exampleServingKeys (by decide +kernel)

end Example

end OvnOctavia
