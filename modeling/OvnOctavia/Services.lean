import OvnOctavia.Keys
import OvnOctavia.Vips

/-!
What the traffic map depends on: the addresses of the row and, for each enabled
listener key, the port and the backends its value stands for. Rows that agree on
these have the same map, whatever else their keys hold. How a pool value is read
is a parameter: the provider reads it with the member statuses of a row.
-/

namespace OvnOctavia

def isServing (k : Str) : Bool := hasListenerPrefix k && !isListenerDisabled k

/-- The port and the pool value a listener value stands for; a value that
serves nothing stands for no members. -/
def serviceOf (externalIds : Dict Str Str) (value : Str) : Str × Str :=
  match extractListenerKeyValue value with
  | none => ([], [])
  | some (port, pool) =>
      if port = [] ∨ pool = [] then ([], []) else (port, (externalIds.get? pool).getD [])

def services (externalIds : Dict Str Str) : List (Str × Str) :=
  (externalIds.items.filter fun b => isServing b.1).map fun b => serviceOf externalIds b.2

theorem services_eq_map (externalIds : Dict Str Str) :
    services externalIds = (externalIds.keys.filter isServing).map fun k =>
      serviceOf externalIds ((externalIds.get? k).getD []) := by
  rw [services, Dict.keys, List.filter_map, List.map_map]
  apply List.map_congr_left
  intro b hb
  have hm := List.mem_of_mem_filter hb
  have hg : externalIds.get? b.1 = some b.2 := (Dict.get?_eq_some_iff _ _ _).mpr hm
  simp only [Function.comp_apply, hg, Option.getD_some]

/-- No backends at all. -/
def Backends.none : Backends := ⟨[], []⟩

section Serving
variable (env : Env)

/-- The entries of one port for every address. -/
def serveBackends (vips fips : List Str) (port : Str) (acc : Dict Str Str) (b : Backends) :
    Except Exc (Dict Str Str) :=
  (vips.foldlM (addVip env b port) acc).bind (fips.foldlM (addFip env b port))

/-- The entries of a service whose pool value is read by `back`. -/
def serve (back : Str → Except Exc Backends) (vips fips : List Str) (acc : Dict Str Str)
    (s : Str × Str) : Except Exc (Dict Str Str) :=
  (back s.2).bind (serveBackends env vips fips s.1 acc)

/-- The traffic map of the keys when their pool values are read by `back`. -/
def frameBy (back : Str → Except Exc Backends) (externalIds : Dict Str Str) :
    Except Exc (Dict Str Str) :=
  if externalIds.get? enabledKey = some (strBool false) then .ok ∅ else
    (services externalIds).foldlM (serve env back (lbVips externalIds) (lbFips externalIds)) ∅

def backendsIn (rowExternalIds : Dict Str Str) (poolValue : Str) : Except Exc Backends :=
  (extractMemberInfo poolValue).bind (backendsOf env rowExternalIds)

@[simp] theorem backendsIn_nil (rowExternalIds : Dict Str Str) :
    backendsIn env rowExternalIds [] = .ok .none := rfl

/-- Of a row's keys only its status map is read. -/
theorem backendsIn_congr {row row' : Dict Str Str}
    (h : row'.get? ovnMemberStatusKey = row.get? ovnMemberStatusKey) :
    backendsIn env row' = backendsIn env row := by
  have hadd : addBackend env row' = addBackend env row := by
    funext acc m
    simp only [addBackend, isMemberOffline, findMemberStatus, loadMemberStatuses, h]
  have hof : backendsOf env row' = backendsOf env row := by
    funext members
    rw [backendsOf, backendsOf, hadd]
  funext v
  rw [backendsIn, backendsIn, hof]

theorem serveBackends_none (vips fips : List Str) (port : Str) (acc : Dict Str Str) :
    serveBackends env vips fips port acc .none = .ok acc := by
  have hv : vips.foldlM (addVip env .none port) acc = .ok acc := by
    induction vips with
    | nil => rfl
    | cons v vips ih => exact ih
  have hf : fips.foldlM (addFip env .none port) acc = .ok acc := by
    induction fips with
    | nil => rfl
    | cons f fips ih => exact ih
  rw [serveBackends, hv]
  exact hf

theorem serve_none {back : Str → Except Exc Backends} {s : Str × Str}
    (h : back s.2 = .ok .none) (vips fips : List Str) (acc : Dict Str Str) :
    serve env back vips fips acc s = .ok acc := by
  rw [serve, h]
  exact serveBackends_none env vips fips s.1 acc

theorem frameListener_eq (rowExternalIds externalIds acc : Dict Str Str) (kv : Str × Str) :
    frameListener env rowExternalIds externalIds acc kv =
      if isServing kv.1 then
        serve env (backendsIn env rowExternalIds) (lbVips externalIds) (lbFips externalIds) acc
          (serviceOf externalIds kv.2)
      else .ok acc := by
  have hnone : ∀ port : Str, serve env (backendsIn env rowExternalIds) (lbVips externalIds)
      (lbFips externalIds) acc (port, []) = .ok acc :=
    fun port => serve_none env (backendsIn_nil env rowExternalIds) _ _ acc
  by_cases hk : isServing kv.1 = true
  · have hk' : (!hasListenerPrefix kv.1 || isListenerDisabled kv.1) = false := by
      simpa [isServing] using hk
    rw [frameListener, hk', if_pos hk, if_neg Bool.false_ne_true, serviceOf]
    cases extractListenerKeyValue kv.2 with
    | none => exact (hnone []).symm
    | some pp =>
        obtain ⟨port, pool⟩ := pp
        by_cases hp : port = [] ∨ pool = []
        · simp only [if_pos hp]
          exact (hnone []).symm
        · simp only [if_neg hp]
          rcases externalIds.get? pool with _ | _ | ⟨c, value⟩
          · exact (hnone port).symm
          · exact (hnone port).symm
          · simp only [serve, backendsIn, Option.getD_some]
            cases extractMemberInfo (c :: value) with
            | error e => rfl
            | ok ms =>
                change (backendsOf env rowExternalIds ms).bind _ =
                  (backendsOf env rowExternalIds ms).bind _
                rfl
  · have hk' : (!hasListenerPrefix kv.1 || isListenerDisabled kv.1) = true := by
      have := Bool.eq_false_iff.mpr hk
      rw [isServing] at this
      cases hh : hasListenerPrefix kv.1 <;> simp_all
    rw [frameListener, hk', if_neg hk, if_pos rfl]

/-- The traffic map, service by service. -/
theorem frameVipIps_eq (rowExternalIds externalIds : Dict Str Str) :
    frameVipIps env rowExternalIds externalIds =
      frameBy env (backendsIn env rowExternalIds) externalIds := by
  rw [frameVipIps, frameBy, services, List.foldlM_map, List.foldlM_filter]
  congr 1
  congr 1
  funext acc kv
  exact frameListener_eq env rowExternalIds externalIds acc kv

end Serving

section Congruence
variable {env : Env} {back back' : Str → Except Exc Backends}

/-- Two services with the same port and the same backends, or without any. -/
def SameService (back back' : Str → Except Exc Backends) (s s' : Str × Str) : Prop :=
  (back s.2 = .ok .none ∧ back' s'.2 = .ok .none) ∨ (s.1 = s'.1 ∧ back s.2 = back' s'.2)

theorem serve_congr {vips fips : List Str} {s s' : Str × Str} (h : SameService back back' s s')
    (acc : Dict Str Str) : serve env back vips fips acc s = serve env back' vips fips acc s' := by
  rcases h with ⟨hs, hs'⟩ | ⟨hport, hb⟩
  · rw [serve_none env hs, serve_none env hs']
  · rw [serve, serve, hb, hport]

theorem foldlM_serve_congr {vips fips : List Str} {l l' : List (Str × Str)}
    (h : List.Forall₂ (SameService back back') l l') (acc : Dict Str Str) :
    l.foldlM (serve env back vips fips) acc = l'.foldlM (serve env back' vips fips) acc := by
  induction h generalizing acc with
  | nil => rfl
  | cons hs _ ih =>
      rw [List.foldlM_cons, List.foldlM_cons, serve_congr hs]
      exact congrArg _ (funext ih)

/-- The same addresses and the same administrative state. -/
structure SameAddresses (e e' : Dict Str Str) : Prop where
  enabled : e.get? enabledKey = e'.get? enabledKey
  vips : lbVips e = lbVips e'
  fips : lbFips e = lbFips e'

/-- Keys with the same addresses, the same serving keys and the same service
under each of them have the same traffic map. -/
theorem frameBy_congr {e e' : Dict Str Str} (ha : SameAddresses e e')
    (hkeys : e.keys.filter isServing = e'.keys.filter isServing)
    (hs : ∀ k ∈ e.keys, isServing k = true →
      SameService back back' (serviceOf e ((e.get? k).getD []))
        (serviceOf e' ((e'.get? k).getD []))) :
    frameBy env back e = frameBy env back' e' := by
  rw [frameBy, frameBy, ha.enabled, ha.vips, ha.fips, services_eq_map, services_eq_map, ← hkeys]
  congr 1
  apply foldlM_serve_congr
  rw [List.forall₂_map_left_iff, List.forall₂_map_right_iff, List.forall₂_same]
  intro k hk
  rw [List.mem_filter] at hk
  exact hs k hk.1 hk.2

end Congruence

section Totality
variable {env : Env} {back : Str → Except Exc Backends}

theorem addEntry_ok {address : Str} (h : (env.ipVersion address).isSome) (key vipPort : Str)
    (v : IpVersion) (ips : List Str) (acc : Dict Str Str) :
    ∃ d, addEntry env address key vipPort v ips acc = .ok d := by
  obtain ⟨w, hw⟩ := Option.isSome_iff_exists.mp h
  unfold addEntry
  split
  · exact ⟨_, rfl⟩
  · rw [Env.version, hw]
    exact ⟨_, rfl⟩

private theorem foldlM_ok {α β : Type} {f : β → α → Except Exc β} {l : List α}
    (h : ∀ a ∈ l, ∀ b, ∃ b', f b a = .ok b') (b : β) : ∃ b', l.foldlM f b = .ok b' := by
  induction l generalizing b with
  | nil => exact ⟨b, rfl⟩
  | cons a l ih =>
      obtain ⟨b₁, hb₁⟩ := h a (List.mem_cons_self ..) b
      obtain ⟨b₂, hb₂⟩ := ih (fun a ha => h a (List.mem_cons_of_mem _ ha)) b₁
      refine ⟨b₂, ?_⟩
      rw [List.foldlM_cons, hb₁]
      exact hb₂

theorem addVip_ok {vip : Str} (h : (env.ipVersion vip).isSome) (b : Backends) (port : Str)
    (acc : Dict Str Str) : ∃ d, addVip env b port acc vip = .ok d := by
  obtain ⟨d₁, h₁⟩ := addEntry_ok h vip port .v4 b.v4 acc
  obtain ⟨d₂, h₂⟩ := addEntry_ok h (bracket vip) port .v6 b.v6 d₁
  refine ⟨d₂, ?_⟩
  rw [addVip, h₁]
  exact h₂

/-- The traffic map exists when the addresses and the members can be read. -/
theorem frameBy_ok {e : Dict Str Str} (hvips : ∀ vip ∈ lbVips e, (env.ipVersion vip).isSome)
    (hfips : ∀ fip ∈ lbFips e, (env.ipVersion fip).isSome)
    (hs : ∀ s ∈ services e, ∃ b, back s.2 = .ok b) : ∃ d, frameBy env back e = .ok d := by
  rw [frameBy]
  split
  · exact ⟨_, rfl⟩
  · apply foldlM_ok
    intro s hm acc
    obtain ⟨b, hb⟩ := hs s hm
    obtain ⟨d₁, h₁⟩ := foldlM_ok (fun v hv d => addVip_ok (hvips v hv) b s.1 d) acc
    obtain ⟨d₂, h₂⟩ := foldlM_ok (f := addFip env b s.1) (l := lbFips e)
      (fun f hf d => addEntry_ok (hfips f hf) f s.1 .v4 b.v4 d) d₁
    refine ⟨d₂, ?_⟩
    rw [serve, hb]
    change serveBackends env _ _ s.1 acc b = _
    rw [serveBackends, h₁]
    exact h₂

end Totality

section Statuses
variable (env : Env)

/-- Whether a status map has the member offline. -/
def isOffline (statuses : Dict Str Str) (memberId : Str) : Bool :=
  statuses.get? memberId = some OFFLINE

theorem isMemberOffline_eq {row statuses : Dict Str Str}
    (h : loadMemberStatuses row = .ok statuses) (id : Str) :
    isMemberOffline row id = .ok (isOffline statuses id) := by
  have hne : NO_MONITOR ≠ OFFLINE := by decide
  rw [isMemberOffline, findMemberStatus, h, isOffline]
  cases hs : statuses.get? id with
  | none => simp [Except.map, hs, hne]
  | some s => simp [Except.map, hs]

def addActive (acc : Backends) (m : MemberData) : Except Exc Backends :=
  (env.version m.ip).map fun
    | .v6 => { acc with v6 := acc.v6 ++ [addressPort (bracket m.ip) m.port] }
    | .v4 => { acc with v4 := acc.v4 ++ [addressPort m.ip m.port] }

/-- The backends of the members, whatever their status. -/
def activeBackends (members : List MemberData) : Except Exc Backends :=
  members.foldlM (addActive env) .none

/-- The backends of a pool value when the members told by `off` are offline. -/
def backendsOff (off : Str → Bool) (poolValue : Str) : Except Exc Backends :=
  (extractMemberInfo poolValue).bind fun ms => activeBackends env (ms.filter fun m => !off m.id)

theorem backendsIn_eq {row statuses : Dict Str Str} (h : loadMemberStatuses row = .ok statuses) :
    backendsIn env row = backendsOff env (isOffline statuses) := by
  funext value
  rw [backendsIn, backendsOff]
  congr 1
  funext ms
  rw [backendsOf, activeBackends, List.foldlM_filter]
  congr 1
  funext acc m
  rw [addBackend, isMemberOffline_eq h]
  cases isOffline statuses m.id with
  | true => rfl
  | false =>
      change (env.version m.ip).bind _ = (env.version m.ip).map _
      cases env.version m.ip with
      | error e => rfl
      | ok v => cases v <;> rfl

/-- The traffic map depends on the statuses of the row only. -/
theorem frameVipIps_eq_off {row statuses : Dict Str Str}
    (h : loadMemberStatuses row = .ok statuses) (e : Dict Str Str) :
    frameVipIps env row e = frameBy env (backendsOff env (isOffline statuses)) e := by
  rw [frameVipIps_eq, backendsIn_eq env h]

@[simp] theorem backendsOff_nil (off : Str → Bool) : backendsOff env off [] = .ok .none := rfl

end Statuses

section Versions

/-- Of the services, only the address library counts for the traffic map. -/
theorem frameVipIps_env {env env' : Env} (h : env.ipVersion = env'.ipVersion) :
    frameVipIps env = frameVipIps env' := by
  have hversion : env.version = env'.version := by
    funext ip
    rw [Env.version, Env.version, h]
  have hactive : addBackend env = addBackend env' := by
    funext row acc m
    rw [addBackend, addBackend, hversion]
  have hentry : addEntry env = addEntry env' := by
    funext address key port v ips acc
    rw [addEntry, addEntry, hversion]
  have hvip : addVip env = addVip env' := by
    funext b port acc vip
    rw [addVip, addVip, hentry]
  have hfip : addFip env = addFip env' := by
    funext b port acc fip
    rw [addFip, addFip, hentry]
  funext row e
  rw [frameVipIps, frameVipIps]
  congr 2
  funext acc kv
  rw [frameListener, frameListener]
  simp only [backendsOf, hactive, hvip, hfip]

end Versions

end OvnOctavia
